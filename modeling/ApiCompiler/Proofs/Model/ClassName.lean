import ApiCompiler.Package.Components
import ApiCompiler.Proofs.Model.Scope
import ApiCompiler.Proofs.Naming.Pascal

/-!
# Class names

A class name is a capital spelling made an identifier, with a number after it where the name alone
is taken. Such a name can always be written and is never one of the taken ones, whatever the text is
that asks for it. So the components of a table have distinct names that keep clear of the names a
module refers to.
-/

namespace ApiCompiler

namespace Naming

theorem isAlphanum_toUpper {c : Char} (h : c.isAlphanum = true) : c.toUpper.isAlphanum = true := by
  have hascii : c.toNat < 128 := Text.toNat_lt_of_isAlphanum (by simp [h])
  have hclass := Text.forall_ascii (p := fun c ↦ !c.isAlphanum || c.toUpper.isAlphanum)
    (by decide) hascii
  simpa [h] using hclass

theorem isAlphanum_of_mem_pascalFrom {start : Bool} {text : List Char} {c : Char}
    (h : c ∈ pascalFrom start text) : c.isAlphanum = true := by
  induction text generalizing start with
  | nil => simp [pascalFrom] at h
  | cons d rest ih =>
    rw [pascalFrom] at h
    split at h
    · next hword =>
      rcases List.mem_cons.mp h with rfl | h
      · split
        · exact isAlphanum_toUpper hword
        · exact hword
      · exact ih h
    · exact ih h

theorem isAlphanum_of_mem_pascal {name : String} {c : Char} (h : c ∈ (pascal name).toList) :
    c.isAlphanum = true :=
  isAlphanum_of_mem_pascalFrom (pascal_toList name ▸ h)

theorem IsUsable.mono {reserved wider : List String} {name : String} (h : IsUsable wider name)
    (hsubset : reserved ⊆ wider) : IsUsable reserved name :=
  ⟨h.isIdentifier, h.not_keyword, fun hmem ↦ h.not_reserved (hsubset hmem)⟩

/-- The search through numbers finds a name that can be written and is free. -/
theorem firstFree_numbered_isUsable {base : String} (h : IsUsable [] base) (taken : List String) :
    IsUsable taken (firstFree taken (numbered base "")) := by
  let found := leastFree (fun i ↦ taken.contains (numbered base "" i)) (taken.length + 1)
  have hname : IsUsable [] (numbered base "" found) := h.numbered (by simp) (by simp) found
  exact ⟨hname.isIdentifier, hname.not_keyword, firstFree_not_mem (numbered_injective _ _) taken⟩

end Naming

open Naming (IsUsable)

namespace ModelScope

/-- Any text gives rise to a class name. -/
theorem className_isUsable (name : String) {fallback : String}
    (hfallback : ∀ c ∈ fallback.toList, c.isAlphanum = true) :
    IsUsable [] (className name fallback) := by
  have hbase {base : String} (h : ∀ c ∈ base.toList, c.isAlphanum = true) :
      IsUsable [] (Naming.identifier base []) :=
    Naming.identifier_isUsable []
      (Naming.isIdentifierChars_identifierStem fun c hc ↦ by simp [h c hc])
  rw [className]
  split
  · exact hbase hfallback
  · exact hbase fun _ ↦ Naming.isAlphanum_of_mem_pascal

/-- A claimed class name can be written next to the names that were taken before. -/
theorem claim_isUsable (scope : ModelScope) (name : String) :
    IsUsable scope.taken (scope.claim name).1 :=
  have hfallback : ∀ c ∈ "Model".toList, c.isAlphanum = true := List.all_eq_true.mp (by decide)
  Naming.firstFree_numbered_isUsable (className_isUsable name hfallback) scope.taken

/-- A scope in which every taken name is one of those at the start or can be written next to
them. -/
structure TakesUsable (start : List String) (scope : ModelScope) : Prop where
  start_subset : start ⊆ scope.taken
  isUsable : ∀ name ∈ scope.taken, name ∈ start ∨ IsUsable start name

variable {start : List String} {scope : ModelScope}

theorem takesUsable_self (scope : ModelScope) : scope.TakesUsable scope.taken :=
  ⟨List.Subset.refl _, fun _ ↦ .inl⟩

theorem TakesUsable.claim (h : scope.TakesUsable start) (name : String) :
    (scope.claim name).2.TakesUsable start := by
  refine ⟨List.subset_cons_of_subset _ h.start_subset, fun other hother ↦ ?_⟩
  rcases List.mem_cons.mp hother with rfl | hother
  · exact .inr ((scope.claim_isUsable name).mono h.start_subset)
  · exact h.isUsable other hother

theorem TakesUsable.push (h : scope.TakesUsable start) (model : Model) :
    (scope.push model).TakesUsable start :=
  ⟨h.start_subset, h.isUsable⟩

end ModelScope

namespace Schema

open ModelScope (TakesUsable)

variable {components : ComponentNames} {start : List String}

mutual
theorem render_takesUsable (inModel : Bool) (hint : String) :
    (schema : Schema) → {scope : ModelScope} → scope.TakesUsable start →
      (schema.render components inModel hint scope).2.TakesUsable start
  | .string .., _, h | .number .., _, h | .boolean _, _, h | .enumeration .., _, h => h
  | .array _ items, _, h => render_takesUsable inModel (hint ++ "Item") items h
  | .object _ [], _, h => h
  | .object _ (property :: rest), _, h => by
    rw [render]
    exact (renderFields_takesUsable _ (property :: rest) _ (h.claim hint)).push _
  | .ref .., _, h | .unknown _, _, h => h
termination_by structural schema => schema
theorem renderFields_takesUsable (className : String) :
    (properties : List (String × Bool × Schema)) → (names : List (String × String)) →
      {scope : ModelScope} → scope.TakesUsable start →
      (renderFields components className properties names scope).2.TakesUsable start
  | [], _, _, h => h
  | (property, _, schema) :: rest, names, _, h =>
    renderFields_takesUsable className rest names.tail
      (render_takesUsable true (className ++ Naming.pascal property) schema h)
termination_by structural properties => properties
end

end Schema

namespace Package

open Naming (assigned)

/-- The name of a component, clear of the names taken so far. -/
def componentClass (taken : List String) (component : String) : String :=
  Naming.firstFree taken (Naming.numbered (ModelScope.className component "Schema") "")

theorem componentClass_isUsable (taken : List String) (component : String) :
    IsUsable taken (componentClass taken component) :=
  have hfallback : ∀ c ∈ "Schema".toList, c.isAlphanum = true := List.all_eq_true.mp (by decide)
  Naming.firstFree_numbered_isUsable (ModelScope.className_isUsable component hfallback) taken

theorem classNamesFrom_eq_assigned (taken components : List String) :
    classNamesFrom taken components = assigned componentClass taken components := by
  induction components generalizing taken with
  | nil => rfl
  | cons component rest ih =>
    rw [classNamesFrom, assigned]
    exact congrArg _ (ih _)

theorem names_classNames (components : List String) :
    (classNames components).names = components := by
  rw [classNames, classNamesFrom_eq_assigned]
  exact Naming.names_assigned moduleNames components

/-- No two components share a name. -/
theorem classNames_values_nodup (components : List String) :
    ((classNames components).map Prod.snd).Nodup := by
  rw [classNames, classNamesFrom_eq_assigned]
  exact Naming.assigned_nodup (fun taken component ↦
    (componentClass_isUsable taken component).not_reserved) moduleNames components

/-- The names of components can be written in a generated module. -/
theorem classNames_isUsable {components : List String} {name : String}
    (h : name ∈ (classNames components).map Prod.snd) : IsUsable moduleNames name := by
  rw [classNames, classNamesFrom_eq_assigned] at h
  obtain ⟨reserved, component, hreserved, rfl⟩ := Naming.exists_choose_of_mem_assigned h
  exact (componentClass_isUsable reserved component).mono hreserved

end Package

/-! ## Names with a capital

A capital of a text survives the spelling with capitals, the making of an identifier and the search
for a free name. A snake-case name has none, so it is never one of the names made in this way. The
classes that rendering a schema gives rise to are named after a hint. When the hint has a capital,
so do they: the hints of inner schemas begin with the hint or with the class around them. -/

namespace Naming

/-- A name with a capital among its letters. -/
def HasCapital (name : String) : Prop :=
  name.toList.any Char.isUpper = true

instance (name : String) : Decidable (HasCapital name) :=
  inferInstanceAs (Decidable (name.toList.any Char.isUpper = true))

variable {name : String}

theorem hasCapital_iff : HasCapital name ↔ ∃ c ∈ name.toList, c.isUpper = true :=
  List.any_eq_true

theorem HasCapital.append_right (h : HasCapital name) (tail : String) :
    HasCapital (name ++ tail) := by
  rw [HasCapital, String.toList_append, List.any_append, h, Bool.true_or]

theorem HasCapital.append_left (h : HasCapital name) (head : String) :
    HasCapital (head ++ name) := by
  rw [HasCapital, String.toList_append, List.any_append, h, Bool.or_true]

/-- A snake-case name has no capital. -/
theorem not_hasCapital_of_forall (h : ∀ c ∈ name.toList, IsSnakeChar c) : ¬ HasCapital name := by
  rw [hasCapital_iff]
  rintro ⟨c, hc, hupper⟩
  rcases isLower_or_isDigit_or_eq (h c hc) with hletter | hdigit | rfl
  · simp [Text.isUpper_of_isLower hletter] at hupper
  · simp [Text.isUpper_of_isDigit hdigit] at hupper
  · exact absurd hupper (by decide)

theorem mem_pascalFrom {c : Char} (hupper : c.isUpper = true) {text : List Char} (hc : c ∈ text)
    (start : Bool) : c ∈ pascalFrom start text := by
  have hword : isWordPart c = true := by simp [isWordPart, Text.isAlphanum_eq, hupper]
  have hcapital : c.toUpper = c := by
    have hclass := Text.forall_ascii (p := fun c ↦ !c.isUpper || c.toUpper == c) (by decide)
      (Text.toNat_lt_of_isUpper hupper)
    simpa [hupper] using hclass
  induction text generalizing start with
  | nil => simp at hc
  | cons d rest ih =>
    rw [pascalFrom]
    rcases List.mem_cons.mp hc with rfl | hc
    · simp [hword, hcapital]
    · split
      · exact List.mem_cons_of_mem _ (ih hc false)
      · exact ih hc true

theorem HasCapital.pascal (h : HasCapital name) : HasCapital (pascal name) := by
  obtain ⟨c, hc, hupper⟩ := hasCapital_iff.mp h
  exact hasCapital_iff.mpr ⟨c, pascal_toList name ▸ mem_pascalFrom hupper hc true, hupper⟩

theorem HasCapital.identifier (h : HasCapital name) (reserved : List String) :
    HasCapital (identifier name reserved) := by
  obtain ⟨c, hc, hupper⟩ := hasCapital_iff.mp h
  obtain ⟨count, hchars⟩ := exists_identifier_toList name reserved
  have hword : Text.isWordChar c = true :=
    Text.isWordChar_of_ascii (Text.toNat_lt_of_isUpper hupper)
      (by simp [Text.isAlphanum_eq, hupper])
  have hmem : c ∈ wordChars name.toList := List.mem_map.mpr ⟨c, hc, by simp [hword]⟩
  have hstem : c ∈ identifierStem name.toList := by
    unfold identifierStem
    split
    · next hnil => simp [hnil] at hmem
    · next first rest heq =>
      rw [heq] at hmem
      split
      · exact List.mem_cons_of_mem _ hmem
      · exact hmem
  exact hasCapital_iff.mpr ⟨c, by simp [hchars, hstem], hupper⟩

theorem HasCapital.numbered (h : HasCapital name) (separator : String) (count : Nat) :
    HasCapital (numbered name separator count) := by
  cases count with
  | zero => exact h
  | succ i => exact (h.append_right separator).append_right _

theorem HasCapital.className (h : HasCapital name) (fallback : String) :
    HasCapital (ModelScope.className name fallback) := by
  have hpascal := h.pascal
  have hne : (Naming.pascal name == "") = false := by
    rw [beq_eq_false_iff_ne]
    intro hempty
    rw [hempty] at hpascal
    exact absurd hpascal (by decide)
  rw [ModelScope.className]
  simp only [hne, Bool.false_eq_true, if_false]
  exact hpascal.identifier []

end Naming

open Naming (HasCapital)

/-- A scope whose models have capitals in their names. -/
def ModelScope.HasCapitals (scope : ModelScope) : Prop :=
  ∀ model ∈ scope.models, HasCapital model.name

namespace ModelScope

variable {scope : ModelScope} {name : String}

theorem hasCapital_claim (h : HasCapital name) (scope : ModelScope) :
    HasCapital (scope.claim name).1 :=
  (h.className "Model").numbered "" _

theorem HasCapitals.claim (h : scope.HasCapitals) (name : String) :
    (scope.claim name).2.HasCapitals :=
  h

theorem HasCapitals.push (h : scope.HasCapitals) {model : Model} (hmodel : HasCapital model.name) :
    (scope.push model).HasCapitals := by
  intro other hother
  rcases List.mem_append.mp hother with hother | hother
  · exact h other hother
  · rw [List.mem_singleton.mp hother]
    exact hmodel

end ModelScope

namespace Schema

open ModelScope (HasCapitals)

variable {components : ComponentNames}

mutual
theorem render_hasCapitals (inModel : Bool) {hint : String} (hhint : HasCapital hint) :
    (schema : Schema) → {scope : ModelScope} → scope.HasCapitals →
      (schema.render components inModel hint scope).2.HasCapitals
  | .string .., _, h | .number .., _, h | .boolean _, _, h | .enumeration .., _, h => h
  | .array _ items, _, h => render_hasCapitals inModel (hhint.append_right "Item") items h
  | .object _ [], _, h => h
  | .object _ (property :: rest), scope, h => by
    rw [render]
    have hclass := ModelScope.hasCapital_claim hhint scope
    apply HasCapitals.push
    · exact renderFields_hasCapitals hclass (property :: rest) _ h
    · exact hclass
  | .ref .., _, h | .unknown _, _, h => h
termination_by structural schema => schema
theorem renderFields_hasCapitals {className : String} (hclass : HasCapital className) :
    (properties : List (String × Bool × Schema)) → (names : List (String × String)) →
      {scope : ModelScope} → scope.HasCapitals →
      (renderFields components className properties names scope).2.HasCapitals
  | [], _, _, h => h
  | (property, _, schema) :: rest, names, _, h =>
    renderFields_hasCapitals hclass rest names.tail
      (render_hasCapitals true (hclass.append_right (Naming.pascal property)) schema h)
termination_by structural properties => properties
end

theorem hoist_hasCapitals (components : ComponentNames) (schema : Schema) {name : String}
    (hname : HasCapital name) {scope : ModelScope} (h : scope.HasCapitals) :
    (schema.hoist components name scope).2.HasCapitals := by
  have hclass := ModelScope.hasCapital_claim hname scope
  exact (renderFields_hasCapitals hclass schema.properties _ (h.claim name)).push hclass

end Schema

end ApiCompiler
