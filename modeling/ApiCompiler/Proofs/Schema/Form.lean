import ApiCompiler.Proofs.Named
import ApiCompiler.Proofs.Report
import ApiCompiler.Proofs.Value.Keyed
import ApiCompiler.Schema.Resolve

/-!
# Forms of a schema node

The keywords of a mapping decide which of five forms it has: a reference, a list of values, an
array, an object, or a plain node. Resolution goes on to the items of an array and to the properties
of an object, and nowhere else. So what holds of every value that is no mapping, and of a mapping
when it holds of its items and of its properties, holds of every node.
-/

namespace ApiCompiler.Schema

open Value (Entries Keyed)

/-- What a mapping states about its schema, by the keyword that comes first. -/
inductive Form where
  | reference (target : Value)
  | enumeration (values : Value)
  | array
  | object
  | plain

/-- The form of a mapping. -/
def form (node : Entries) : Form :=
  match node.get? "$ref", node.get? "enum" with
  | some target, _ => .reference target
  | none, some values => .enumeration values
  | none, none =>
    if declaredType node == some "array" then .array
    else if declaredType node == some "object" || node.has "properties" then .object
    else .plain

/-- The items that a node states. -/
def itemsOf (node : Entries) : Value :=
  (node.get? "items").getD .null

/-- The properties that a node states. -/
def propertiesOf (node : Entries) : Entries :=
  ((node.get? "properties").bind Value.map?).getD []

/-! ## Resolution by keywords -/

variable {known : Option (List String)}

theorem resolveItems_eq (known : Option (List String)) (node : Entries) :
    resolveItems known node =
      ((node.get? "items").map (resolve known)).getD (pure (.unknown false)) := by
  induction node with
  | nil => rfl
  | cons entry rest ih =>
    obtain ⟨key, v⟩ := entry
    rw [resolveItems, Keyed.get?_cons]
    cases Keyed.keyIs "items" key with
    | true => rfl
    | false => exact ih

/-- Only the properties of a mapping are resolved. -/
theorem resolveProperties_eq (known : Option (List String)) (required : List String)
    (node : Entries) :
    resolveProperties known required node = resolveEach known required (propertiesOf node) := by
  induction node with
  | nil => rfl
  | cons entry rest ih =>
    obtain ⟨key, v⟩ := entry
    rw [propertiesOf] at ih
    rw [propertiesOf, Keyed.get?_cons]
    cases hkey : Keyed.keyIs "properties" key with
    | true => cases v <;> simp [resolveProperties, hkey, Value.map?, resolveEach]
    | false => cases v <;> simpa [resolveProperties, hkey] using ih

/-- A mapping is resolved by its form. -/
theorem resolve_map (known : Option (List String)) (node : Entries) :
    resolve known (.map node) =
      match form node with
      | .reference target => ofReference known (admitsNull node) target
      | .enumeration values => pure (ofEnumeration (admitsNull node) values)
      | .array => do
        let items ← resolve known (itemsOf node)
        return .array (admitsNull node) items
      | .object => do
        let properties ← resolveEach known (requiredNames node) (propertiesOf node)
        return .object (admitsNull node) (Named.ofPairs properties)
      | .plain => ofPlain (declaredType node) (admitsNull node) node := by
  rw [resolve, form, itemsOf]
  cases node.get? "$ref" with
  | some target => rfl
  | none =>
    cases node.get? "enum" with
    | some values => rfl
    | none =>
      cases declaredType node == some "array" with
      | true =>
        simp only [resolveItems_eq, if_true]
        cases node.get? "items" <;> rfl
      | false =>
        simp only [resolveProperties_eq, Bool.false_eq_true, if_false]
        split <;> rfl

theorem get?_of_form_eq_reference {node : Entries} {target : Value}
    (h : form node = .reference target) : node.get? "$ref" = some target := by
  unfold form at h
  split at h
  · cases h
    assumption
  · cases h
  · split at h
    · cases h
    · split at h <;> cases h

theorem get?_of_form_eq_enumeration {node : Entries} {values : Value}
    (h : form node = .enumeration values) : node.get? "enum" = some values := by
  unfold form at h
  split at h
  · cases h
  · cases h
    assumption
  · split at h
    · cases h
    · split at h <;> cases h

/-- Whatever is no mapping resolves to the unknown schema, if it resolves. -/
theorem eq_unknown_of_resolve {v : Value} {schema : Schema} (hv : v.isMap = false)
    (h : (resolve known v).outcome = .ok schema) : schema = .unknown false := by
  cases v with
  | map node => cases hv
  | endless => cases h
  | _ =>
    cases h
    rfl

theorem eq_display_of_keyName {key : Value} {name : String}
    (h : (keyName key).outcome = .ok name) : name = key.display := by
  unfold keyName at h
  split at h
  · split at h
    · cases h
    · cases h
      rfl
  · cases h
    rfl

/-- A property with the name of its key, the flag that the required names give it and the schema of
its node. -/
structure IsPropertyOf (known : Option (List String)) (required : List String)
    (entry : Value × Value) (property : String × Bool × Schema) : Prop where
  name_eq : property.1 = entry.1.display
  required_eq : property.2.1 = isRequired required entry.1
  resolves : (resolve known entry.2).outcome = .ok property.2.2

/-- Properties are resolved one by one, in order. -/
theorem forall₂_of_resolveEach {required : List String} {entries : Entries}
    {properties : List (String × Bool × Schema)}
    (h : (resolveEach known required entries).outcome = .ok properties) :
    List.Forall₂ (IsPropertyOf known required) entries properties := by
  induction entries generalizing properties with
  | nil =>
    cases h
    exact .nil
  | cons entry rest ih =>
    simp only [resolveEach, Report.outcome_bind_eq_ok] at h
    obtain ⟨name, hname, schema, hschema, others, hothers, h⟩ := h
    cases h
    exact .cons ⟨eq_display_of_keyName hname, rfl, hschema⟩ (ih hothers)

/-! ## Induction over the nodes that resolution visits -/

theorem sizeOf_lt_of_get? {node : Entries} {key : String} {v : Value} (h : node.get? key = some v) :
    sizeOf v < sizeOf node := by
  rw [Keyed.get?, Option.map_eq_some_iff] at h
  obtain ⟨entry, hentry, rfl⟩ := h
  have hnode := List.sizeOf_lt_of_mem (List.mem_of_find?_eq_some hentry)
  have hsize : sizeOf entry = 1 + sizeOf entry.1 + sizeOf entry.2 := Prod.mk.sizeOf_spec ..
  omega

theorem sizeOf_itemsOf_lt (node : Entries) : sizeOf (itemsOf node) < sizeOf (Value.map node) := by
  rw [itemsOf, Value.map.sizeOf_spec]
  cases hitems : node.get? "items" with
  | none =>
    have hnull : sizeOf Value.null = 1 := rfl
    have hnode : 0 < sizeOf node := by
      cases node with
      | nil => simp
      | cons entry rest => rw [List.cons.sizeOf_spec]; omega
    simp only [Option.getD_none, hnull]
    omega
  | some items =>
    have hless := sizeOf_lt_of_get? hitems
    simp only [Option.getD_some]
    omega

theorem sizeOf_property_lt {node : Entries} {entry : Value × Value}
    (h : entry ∈ propertiesOf node) : sizeOf entry.2 < sizeOf (Value.map node) := by
  rw [propertiesOf] at h
  cases hstated : (node.get? "properties").bind Value.map? with
  | none => simp [hstated] at h
  | some properties =>
    rw [hstated, Option.getD_some] at h
    obtain ⟨v, hv, hmap⟩ := Option.bind_eq_some_iff.mp hstated
    have hless := sizeOf_lt_of_get? hv
    have hentry := List.sizeOf_lt_of_mem h
    have hsize : sizeOf entry = 1 + sizeOf entry.1 + sizeOf entry.2 := Prod.mk.sizeOf_spec ..
    cases v with
    | map entries =>
      obtain rfl : entries = properties := by simpa [Value.map?] using hmap
      rw [Value.map.sizeOf_spec] at hless ⊢
      omega
    | _ => simp [Value.map?] at hmap

/-- What holds of every value that is no mapping, and of a mapping when it holds of its items and of
its properties, holds of every value. -/
@[elab_as_elim]
theorem node_induction {motive : Value → Prop} (other : ∀ v, v.isMap = false → motive v)
    (map : ∀ node, motive (itemsOf node) → (∀ entry ∈ propertiesOf node, motive entry.2) →
      motive (.map node)) : (v : Value) → motive v
  | .map node =>
    map node (node_induction other map (itemsOf node)) fun entry hentry ↦
      have := sizeOf_property_lt hentry
      node_induction other map entry.2
  | .null | .bool _ | .int _ | .float _ | .text _ | .list _ | .date _ | .timestamp _ | .bytes _
  | .set _ | .endless => other _ rfl
termination_by v => sizeOf v
decreasing_by
  · exact sizeOf_itemsOf_lt node
  · exact this

end ApiCompiler.Schema
