import ApiCompiler.Proofs.Schema.Closed
import ApiCompiler.Proofs.Schema.Reading

/-!
# Resolution with a table

A node can be resolved on its own or with the names of a table. The names decide only what becomes of
references: a reference to any other name is the unknown schema, with the same nullable flag.
Everything else, at every depth, is the same in both.
-/

namespace ApiCompiler.Schema

open Value (Entries Keyed)

mutual
/-- The schema with unknown schemas in place of references to other names. -/
def restrict (names : List String) : Schema → Schema
  | .ref nullable name => if names.contains name then .ref nullable name else .unknown nullable
  | .array nullable items => .array nullable (items.restrict names)
  | .object nullable properties => .object nullable (restrictAll names properties)
  | schema => schema
termination_by structural schema => schema
/-- The properties with restricted schemas. -/
def restrictAll (names : List String) :
    List (String × Bool × Schema) → List (String × Bool × Schema)
  | [] => []
  | (name, required, schema) :: rest =>
    (name, required, schema.restrict names) :: restrictAll names rest
termination_by structural properties => properties
end

theorem restrictAll_eq_map (names : List String) (properties : List (String × Bool × Schema)) :
    restrictAll names properties =
      properties.map fun property ↦ (property.1, Prod.map id (restrict names) property.2) := by
  induction properties with
  | nil => rfl
  | cons property rest ih =>
    rw [restrictAll, ih]
    rfl

/-- Restriction goes through a later property that replaces an earlier one of its name. -/
theorem restrictAll_ofPairs (names : List String) (pairs : List (String × Bool × Schema)) :
    restrictAll names (Named.ofPairs pairs) = Named.ofPairs (restrictAll names pairs) := by
  simp only [restrictAll_eq_map]
  exact Named.map_ofPairs (Prod.map id (restrict names)) pairs

variable (names : List String)

theorem outcome_ofReference_some (nullable : Bool) (target : Value) :
    (ofReference (some names) nullable target).outcome =
      (ofReference none nullable target).outcome.map (restrict names) := by
  cases target with
  | text reference =>
    simp only [ofReference, Option.all_none, Option.all_some, if_true]
    cases reference == "" with
    | true => rfl
    | false =>
      show _ = Except.ok ((ref nullable (Pointer.componentName reference)).restrict names)
      rw [if_neg Bool.false_ne_true, restrict]
      -- an unknown reference is logged, which leaves the result as it is
      split <;> rfl
  | _ => rfl

theorem restrict_ofEnumeration (nullable : Bool) (values : Value) :
    (ofEnumeration nullable values).restrict names = ofEnumeration nullable values := by
  unfold ofEnumeration
  split
  · dsimp only
    split <;> rfl
  · rfl

theorem outcome_ofPlain_map (declared : Option String) (nullable : Bool) (node : Entries) :
    (ofPlain declared nullable node).outcome =
      (ofPlain declared nullable node).outcome.map (restrict names) := by
  unfold ofPlain
  split
  · apply Report.outcome_bind_map_right
    intro limits
    rfl
  all_goals rfl

theorem outcome_resolveEach_some {required : List String} {entries : Entries}
    (h : ∀ entry ∈ entries, (resolve (some names) entry.2).outcome =
      (resolve none entry.2).outcome.map (restrict names)) :
    (resolveEach (some names) required entries).outcome =
      (resolveEach none required entries).outcome.map (restrictAll names) := by
  induction entries with
  | nil => rfl
  | cons entry rest ih =>
    obtain ⟨hentry, hrest⟩ := List.forall_mem_cons.mp h
    rw [resolveEach, resolveEach]
    apply Report.outcome_bind_map_right
    intro name
    apply Report.outcome_bind_map hentry
    intro schema
    apply Report.outcome_bind_map (ih hrest)
    intro others
    rfl

/-- Resolved with the names of a table, a node has the schema that it has without them, restricted
to these names; it fails with the names as it fails without them. -/
theorem outcome_resolve_some (node : Value) :
    (resolve (some names) node).outcome =
      (resolve none node).outcome.map (restrict names) := by
  induction node using node_induction with
  | other v hv =>
    cases v with
    | map node => cases hv
    | _ => rfl
  | map node ihItems ihProperties =>
    rw [resolve_map, resolve_map]
    cases form node with
    | reference target => exact outcome_ofReference_some names (admitsNull node) target
    | enumeration values =>
      show Except.ok _ = Except.ok _
      rw [restrict_ofEnumeration]
    | array =>
      apply Report.outcome_bind_map ihItems
      intro items
      rfl
    | object =>
      apply Report.outcome_bind_map (outcome_resolveEach_some names ihProperties)
      intro properties
      show Except.ok _ = Except.ok _
      rw [restrict, restrictAll_ofPairs]
    | plain => exact outcome_ofPlain_map names _ _ node

/-- With the names of a table, the schema of a node is the one without them, restricted to these
names. Both say of the node what it states, and the restricted schema refers to these names only. -/
theorem resolve_some_eq_restrict (node : Value) {schema : Schema}
    (h : (resolve none node).outcome = .ok schema) :
    (resolve (some names) node).outcome = .ok (schema.restrict names) ∧
      schema.IsReadingOf node ∧ (schema.restrict names).IsReadingOf node ∧
      (schema.restrict names).IsClosed names := by
  have hsome : (resolve (some names) node).outcome = .ok (schema.restrict names) := by
    rw [outcome_resolve_some, h]
    rfl
  exact ⟨hsome, isReadingOf_of_resolve node h, isReadingOf_of_resolve node hsome,
    isClosed_of_resolve node hsome⟩

/-- An object with a property that is a list of values, and one that is an array of references to a
component; some of its keywords are malformed. -/
def catalogue : Entries :=
  [(.text "required", .list [.text "tags", .int 1]),
    (.text "properties", .map
      [(.text "tags", .map
        [(.text "type", .text "array"),
          (.text "items", .map
            [(.text "$ref", .text "#/components/schemas/Tag"), (.text "nullable", .bool true)])]),
        (.text "size", .map [(.text "enum", .list [.null, .int 2, .text "big", .list []])]),
        (.text "code", .map
          [(.text "type", .list [.text "null", .text "string"]), (.text "minLength", .int (-1)),
            (.text "maxLength", .int 8)])])]

theorem resolve_catalogue_eq_restrict :
    ∃ schema, (resolve none (.map catalogue)).outcome = .ok schema ∧
      (resolve (some ["Label"]) (.map catalogue)).outcome = .ok (schema.restrict ["Label"]) ∧
      schema.restrict ["Label"] = .object false
        [("tags", true, .array false (.unknown true)),
          ("size", false, .enumeration true [.number (.int 2), .text "big"]),
          ("code", false, .string true ⟨none, some 8, none, false⟩)] ∧
      (schema.restrict ["Label"]).IsReadingOf (.map catalogue) := by
  have h : (resolve none (.map catalogue)).outcome = .ok (.object false
      [("tags", true, .array false (.ref true "Tag")),
        ("size", false, .enumeration true [.number (.int 2), .text "big"]),
        ("code", false, .string true ⟨none, some 8, none, false⟩)]) := by
    rfl
  have hspec := resolve_some_eq_restrict ["Label"] (.map catalogue) h
  exact ⟨_, h, hspec.1, rfl, hspec.2.2.1⟩

end ApiCompiler.Schema
