import ApiCompiler.Model.FieldName
import ApiCompiler.Package.Forwarding
import ApiCompiler.Proofs.Named
import ApiCompiler.Proofs.Naming.Identifier

/-!
# Names assigned in order

Fields of a model and parameters of a client method get their names in one way: key by key, each
name apart from those taken before it. The names are therefore distinct, and each of them has what
the choice of a single name guarantees.
-/

namespace ApiCompiler

namespace Naming

/-- Names for keys in order, each chosen with the names taken before it. -/
def assigned (choose : List String → String → String) (taken : List String) :
    List String → Named String
  | [] => []
  | key :: rest => (key, choose taken key) :: assigned choose (choose taken key :: taken) rest

variable {choose : List String → String → String}

theorem names_assigned (taken keys : List String) :
    (assigned choose taken keys).names = keys := by
  induction keys generalizing taken with
  | nil => rfl
  | cons key rest ih => exact congrArg (key :: ·) (ih _)

/-- Each assigned name was chosen with at least the names that were taken at first. -/
theorem exists_choose_of_mem_assigned {taken keys : List String} {name : String}
    (h : name ∈ (assigned choose taken keys).map Prod.snd) :
    ∃ reserved key, taken ⊆ reserved ∧ name = choose reserved key := by
  induction keys generalizing taken with
  | nil => simp [assigned] at h
  | cons key rest ih =>
    rw [assigned, List.map_cons, List.mem_cons] at h
    rcases h with rfl | h
    · exact ⟨taken, key, List.Subset.refl taken, rfl⟩
    · obtain ⟨reserved, other, hreserved, hname⟩ := ih h
      exact ⟨reserved, other, fun _ htaken ↦ hreserved (List.mem_cons_of_mem _ htaken), hname⟩

theorem assigned_nodup (hchoose : ∀ taken key, choose taken key ∉ taken)
    (taken keys : List String) : ((assigned choose taken keys).map Prod.snd).Nodup := by
  induction keys generalizing taken with
  | nil => exact List.nodup_nil
  | cons key rest ih =>
    rw [assigned, List.map_cons, List.nodup_cons]
    refine ⟨fun hmem ↦ ?_, ih _⟩
    obtain ⟨reserved, other, hreserved, hname⟩ := exists_choose_of_mem_assigned hmem
    have htaken : choose taken key ∈ reserved := hreserved (List.mem_cons_self ..)
    exact hchoose reserved other (hname ▸ htaken)

end Naming

/-! ## Fields -/

namespace Model

open Naming (assigned)

theorem fieldNamesFrom_eq_assigned (taken properties : List String) :
    fieldNamesFrom taken properties = assigned fieldName taken properties := by
  induction properties generalizing taken with
  | nil => rfl
  | cons property rest ih =>
    rw [fieldNamesFrom, assigned]
    exact congrArg _ (ih _)

theorem fieldName_not_mem (taken : List String) (property : String) :
    fieldName taken property ∉ taken := by
  rw [fieldName]
  split
  · exact fun hmem ↦ Naming.identifier_not_mem property taken (List.mem_append_right _ hmem)
  · refine fun hmem ↦ Naming.identifier_not_mem (derivedName property) (taken ++ baseAttributes) ?_
    exact List.mem_append_right _ (List.mem_append_left _ hmem)

theorem names_fieldNames (properties reserved : List String) :
    Named.names (fieldNames properties reserved) = properties := by
  rw [fieldNames, fieldNamesFrom_eq_assigned]
  exact Naming.names_assigned reserved properties

/-- No two properties of a model share a field. -/
theorem fieldNames_nodup (properties reserved : List String) :
    ((fieldNames properties reserved).map Prod.snd).Nodup := by
  rw [fieldNames, fieldNamesFrom_eq_assigned]
  exact Naming.assigned_nodup fieldName_not_mem reserved properties

end Model

/-! ## Parameters of client methods -/

namespace Package

open Naming (assigned IsUsable)

theorem clientParamsFrom_eq_assigned (taken names : List String) :
    clientParamsFrom taken names =
      assigned (fun taken name ↦ Naming.identifier (Naming.snakeIdentifier name) taken) taken
        names := by
  induction names generalizing taken with
  | nil => rfl
  | cons name rest ih =>
    rw [clientParamsFrom, assigned]
    exact congrArg _ (ih _)

theorem names_clientParams (route : Route) :
    (clientParams route).names = route.pathParams.names := by
  rw [clientParams, clientParamsFrom_eq_assigned]
  exact Naming.names_assigned clientParameters route.pathParams.names

/-- No two path parameters share a parameter of the client method. -/
theorem clientParams_nodup (route : Route) : ((clientParams route).map Prod.snd).Nodup := by
  rw [clientParams, clientParamsFrom_eq_assigned]
  refine Naming.assigned_nodup (fun taken name hmem ↦ ?_) clientParameters route.pathParams.names
  exact Naming.identifier_not_mem _ taken (List.mem_append_right _ hmem)

/-- The parameters of a client method can be written, next to those that every method has. -/
theorem clientParams_isUsable {route : Route} {parameter : String}
    (h : parameter ∈ (clientParams route).map Prod.snd) : IsUsable clientParameters parameter := by
  rw [clientParams, clientParamsFrom_eq_assigned] at h
  obtain ⟨reserved, name, hreserved, rfl⟩ := Naming.exists_choose_of_mem_assigned h
  have husable := Naming.identifier_snakeIdentifier_isUsable name reserved
  exact ⟨husable.isIdentifier, husable.not_keyword, fun hmem ↦
    husable.not_reserved (hreserved hmem)⟩

end Package

end ApiCompiler
