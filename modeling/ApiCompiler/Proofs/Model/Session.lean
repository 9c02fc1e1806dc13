import ApiCompiler.Proofs.Model.ClassName
import ApiCompiler.Proofs.Model.Order

/-!
# A module in the making

The classes of a generated module come about step by step: a class name is claimed, a schema is
rendered, or a model of a schema is made. Whatever the steps are, no two classes share a name, every
name can be written and keeps clear of the names that the module refers to, and the models stand in
an order in which each refers to earlier ones only.
-/

namespace ApiCompiler.ModelScope

open Naming (IsFirstFree IsUsable)

/-- What is asked of a module. -/
inductive Step where
  | claim (name : String)
  | render (schema : Schema) (hint : String)
  | hoist (schema : Schema) (name : String)

/-- A module after some steps: the names claimed for themselves, the properties for which models
were made, and the scope with these models. -/
structure Session where
  claimed : List String
  sources : List Properties
  scope : ModelScope

namespace Session

/-- A module before any step. -/
def start (reserved : List String) : Session :=
  ⟨[], [], .empty reserved⟩

/-- The names of the claimed classes and of the models. -/
def classes (session : Session) : List String :=
  session.claimed ++ session.scope.models.map Model.name

/-- The module after one more step. -/
def step (components : ComponentNames) (session : Session) : Step → Session
  | .claim name =>
    { session with
      claimed := session.claimed ++ [(session.scope.claim name).1]
      scope := (session.scope.claim name).2 }
  | .render schema hint =>
    { session with
      sources := session.sources ++ schema.hoisted
      scope := (schema.render components false hint session.scope).2 }
  | .hoist schema name =>
    { session with
      sources := session.sources ++
        (Schema.hoistedOfAll schema.properties ++ [schema.properties])
      scope := (schema.hoist components name session.scope).2 }

/-- The module after all steps. -/
def run (components : ComponentNames) (reserved : List String) (steps : List Step) : Session :=
  steps.foldl (step components) (start reserved)

/-- What the steps preserve: the classes are distinct and taken, all taken names beside the reserved
ones can be written, and the models are in order. -/
structure IsOrderly (components : ComponentNames) (reserved : List String) (session : Session) :
    Prop where
  classes_nodup : session.classes.Nodup
  classes_taken : session.classes ⊆ session.scope.taken
  classes_isUsable : ∀ name ∈ session.classes, IsUsable (moduleNames ++ reserved) name
  takesUsable : session.scope.TakesUsable (moduleNames ++ reserved)
  inOrder : AreInOrder components session.sources session.scope.models

variable {components : ComponentNames} {reserved : List String} {session : Session}

theorem isOrderly_start (components : ComponentNames) (reserved : List String) :
    (start reserved).IsOrderly components reserved where
  classes_nodup := List.nodup_nil
  classes_taken := List.nil_subset _
  classes_isUsable := by simp [start, classes, empty]
  takesUsable := takesUsable_self (.empty reserved)
  inOrder := ⟨rfl, by simp [start]⟩

theorem IsOrderly.claim (h : session.IsOrderly components reserved) (name : String) :
    (session.step components (.claim name)).IsOrderly components reserved := by
  have hclasses : (session.step components (.claim name)).classes =
      session.claimed ++ (session.scope.claim name).1 :: session.scope.models.map Model.name :=
    List.append_assoc ..
  have hfree : (session.scope.claim name).1 ∉ session.classes := fun hmem ↦
    session.scope.claim_not_mem name (h.classes_taken hmem)
  have husable : IsUsable (moduleNames ++ reserved) (session.scope.claim name).1 :=
    (session.scope.claim_isUsable name).mono h.takesUsable.start_subset
  constructor
  · rw [hclasses, List.nodup_middle, List.nodup_cons]
    exact ⟨hfree, h.classes_nodup⟩
  · intro other hother
    rw [hclasses, List.perm_middle.mem_iff] at hother
    exact List.cons_subset_cons _ h.classes_taken hother
  · intro other hother
    rw [hclasses, List.perm_middle.mem_iff] at hother
    rcases List.mem_cons.mp hother with rfl | hother
    · exact husable
    · exact h.classes_isUsable other hother
  · exact h.takesUsable.claim name
  · exact h.inOrder

/-- A scope that rendering has made of the one of an orderly module, with its models in order, is
that of an orderly module again. -/
theorem IsOrderly.extend (h : session.IsOrderly components reserved) {final : ModelScope}
    (hextends : session.scope.Extends final)
    (husable : final.TakesUsable (moduleNames ++ reserved)) {sources : List Properties}
    (horder : AreInOrder components sources final.models) :
    (Session.mk session.claimed sources final).IsOrderly components reserved := by
  obtain ⟨htaken, added, hadded, hnodup, hnames⟩ := hextends
  have hclasses : (Session.mk session.claimed sources final).classes =
      session.classes ++ added.map Model.name := by
    rw [classes, classes, hadded, List.map_append, List.append_assoc]
  have hnew {name : String} (hname : name ∈ added.map Model.name) :
      name ∉ session.scope.taken ∧ name ∈ final.taken := by
    obtain ⟨model, hmodel, rfl⟩ := List.mem_map.mp hname
    exact hnames model hmodel
  constructor
  · rw [hclasses]
    apply h.classes_nodup.append hnodup
    intro name hold hname
    exact (hnew hname).1 (h.classes_taken hold)
  · rw [hclasses]
    apply List.append_subset.mpr
    exact ⟨fun name hname ↦ htaken (h.classes_taken hname), fun name hname ↦ (hnew hname).2⟩
  · intro name hname
    rw [hclasses] at hname
    rcases List.mem_append.mp hname with hname | hname
    · exact h.classes_isUsable name hname
    · -- a new name is not one of those at the start, since these were taken before
      obtain ⟨hfree, hmem⟩ := hnew hname
      apply (husable.isUsable name hmem).resolve_left
      exact fun hstart ↦ hfree (h.takesUsable.start_subset hstart)
  · exact husable
  · exact horder

theorem IsOrderly.step (h : session.IsOrderly components reserved) (step : Step) :
    (session.step components step).IsOrderly components reserved := by
  cases step with
  | claim name => exact h.claim name
  | render schema hint =>
    apply h.extend
    · exact Schema.render_extends false hint schema session.scope
    · exact Schema.render_takesUsable false hint schema h.takesUsable
    · exact (Schema.render_isRenderedInOrder false hint schema h.inOrder).inOrder
  | hoist schema name =>
    apply h.extend
    · exact Schema.hoist_extends components schema name session.scope
    · exact (Schema.renderFields_takesUsable _ schema.properties _ (h.takesUsable.claim name)).push _
    · exact Schema.hoist_areInOrder schema name h.inOrder

theorem isOrderly_run (components : ComponentNames) (reserved : List String) (steps : List Step) :
    (run components reserved steps).IsOrderly components reserved := by
  induction steps using List.reverseRecOn with
  | nil => exact isOrderly_start components reserved
  | append_singleton steps step ih =>
    rw [run, List.foldl_append]
    exact ih.step step

/-- A claim ends: it takes the first candidate that is free. -/
theorem claim_isFirstFree (scope : ModelScope) (name : String) :
    IsFirstFree (· ∈ scope.taken) (Naming.numbered (className name "Model") "")
      (scope.claim name).1 :=
  Naming.firstFree_isFirstFree (Naming.numbered_injective _ _) scope.taken

/-- After any steps, the claimed classes and the models have distinct names that can be written next
to those that the module refers to, the models are in order, and whatever is rendered next names a
model that is there by then. Every claim ends. -/
theorem run_isInOrder (components : ComponentNames) (reserved : List String) (steps : List Step) :
    let session := run components reserved steps
    session.classes.Nodup ∧
      (∀ name ∈ session.classes, IsUsable (moduleNames ++ reserved) name) ∧
      AreInOrder components session.sources session.scope.models ∧
      (∀ (schema : Schema) (hint : String),
        let rendered := schema.render components false hint session.scope
        schema.IsAnnotatedBy components false rendered.2.models rendered.1) ∧
      (∀ (schema : Schema) (name : String),
        let hoisted := schema.hoist components name session.scope
        ∃ model ∈ hoisted.2.models, model.name = hoisted.1 ∧
          model.HasFieldsFor schema.properties.names) ∧
      ∀ scope name, IsFirstFree (· ∈ scope.taken) (Naming.numbered (className name "Model") "")
        (claim scope name).1 := by
  intro session
  have h : session.IsOrderly components reserved := isOrderly_run components reserved steps
  refine ⟨h.classes_nodup, h.classes_isUsable, h.inOrder, ?_, ?_, claim_isFirstFree⟩
  · intro schema hint
    exact (Schema.render_isRenderedInOrder false hint schema h.inOrder).annotated
  · intro schema name
    obtain ⟨model, hlast, hname, hfields⟩ :=
      Schema.exists_model_of_hoist components schema name session.scope
    exact ⟨model, List.mem_of_getLast? hlast, hname, hfields⟩

/-- A user with an address, met in a list and made a model, in a module that claims names of its own
before and after. -/
def usersSteps : List Step :=
  let address := Schema.object false [("city", true, .string false {})]
  let user := Schema.object false
    [("address", false, address), ("tags", true, .array false (.ref true "Tag"))]
  [.claim "user", .render (.array false user) "User", .hoist user "user", .claim "user address"]

theorem users_areInOrder :
    let session := run (fun _ name ↦ some ("schemas." ++ name)) ["schemas"] usersSteps
    session.classes = ["User", "UserAddress", "UserItemAddress", "UserItem", "User2Address",
        "User2"] ∧
      session.classes.Nodup ∧ "UserItem" ∉ moduleNames ++ ["schemas"] := by
  intro session
  have h := run_isInOrder (fun _ name ↦ some ("schemas." ++ name)) ["schemas"] usersSteps
  have hclasses : session.classes = ["User", "UserAddress", "UserItemAddress", "UserItem",
      "User2Address", "User2"] := by
    decide +kernel
  refine ⟨hclasses, h.1, (h.2.1 "UserItem" ?_).not_reserved⟩
  show "UserItem" ∈ session.classes
  rw [hclasses]
  decide

end Session

end ApiCompiler.ModelScope
