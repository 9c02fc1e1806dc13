import ApiCompiler.Proofs.Named
import ApiCompiler.Proofs.Naming.Identifier
import ApiCompiler.Proofs.Route.Parameter
import ApiCompiler.Route

/-!
# What a route keeps of its operation

A route has the templates of its path, the query parameters of its operation and a body exactly when
the operation has JSON content. The properties of its input are apart from each other: a query
parameter gives way to a path parameter of its name, and the body to both.
-/

namespace ApiCompiler.Route

variable {document path : Value} {known : Option (List String)} {method : String}
  {operation item : Value.Entries}

/-- A route with the templates of its path, with its query parameters listed once each, and with a
key for the body that no parameter has. -/
structure IsWellFormed (route : Route) : Prop where
  pathParams_names : route.pathParams.names = PathTemplate.params route.path
  queryParams_nodup : route.queryParams.names.Nodup
  bodyKey_not_path : route.bodyKey ∉ route.pathParams.names
  bodyKey_not_query : route.bodyKey ∉ route.queryParams.names

/-- A route that keeps the path, the query parameters and the body of an operation. -/
structure Keeps (document path : Value) (operation item : Value.Entries) (route : Route) :
    Prop where
  path_eq : path = .text route.path
  queryParams_names : ∃ parameters,
    (collectParameters document operation item).outcome = .ok parameters ∧
      route.queryParams.names = queryNames parameters
  body_isSome : ∃ container,
    (Document.deref document ((operation.get? "requestBody").getD .null)).outcome = .ok container ∧
      route.body.isSome = (jsonSchema? container).isSome

/-- A route with the method, the path and the resource of an operation, under the name that it
gives. -/
structure IsNamedAfter (method : String) (path : Value) (operation : Value.Entries)
    (route : Route) : Prop where
  path_eq : path = .text route.path
  resource?_eq : PathTemplate.resource? route.path = some route.resource
  method_eq : route.method = String.ofList (Text.lower method.toList)
  name_eq : route.name = nameOf route.method route.path operation
  operation_eq : route.operation = route.name

theorem IsWellFormed.pathParams_nodup {route : Route} (h : route.IsWellFormed) :
    route.pathParams.names.Nodup :=
  h.pathParams_names ▸ PathTemplate.params_nodup route.path

/-! ## Reading an operation -/

theorem eq_text_of_pathText {template : String} (h : (pathText path).outcome = .ok template) :
    path = .text template := by
  cases path with
  | text s =>
    cases h
    rfl
  | _ => cases h

theorem isSome_of_bodyOf {body : Option Schema × Bool}
    (h : (bodyOf document known operation).outcome = .ok body) :
    ∃ container, (Document.deref document
        ((operation.get? "requestBody").getD .null)).outcome = .ok container ∧
      body.1.isSome = (jsonSchema? container).isSome := by
  rw [bodyOf, Report.outcome_bind_eq_ok] at h
  obtain ⟨container, hcontainer, h⟩ := h
  refine ⟨container, hcontainer, ?_⟩
  cases hschema : jsonSchema? container with
  | none =>
    rw [hschema] at h
    cases h
    rfl
  | some node =>
    rw [hschema, Report.outcome_bind_eq_ok] at h
    obtain ⟨schema, _, h⟩ := h
    cases h
    rfl

/-- All that is read off an operation that has a route. -/
structure IsReadFrom (document path : Value) (known : Option (List String)) (method : String)
    (operation item : Value.Entries) (parameters : List Parameter) (route : Route) : Prop where
  path_eq : path = .text route.path
  resource?_eq : PathTemplate.resource? route.path = some route.resource
  parameters_eq : (collectParameters document operation item).outcome = .ok parameters
  pathParams_eq : (pathSchemas known parameters (PathTemplate.params route.path)).outcome =
    .ok route.pathParams
  queryParams_eq : (querySchemas known parameters).outcome = .ok route.queryParams
  body_eq : (bodyOf document known operation).outcome = .ok (route.body, route.bodyRequired)
  response_eq : (responseOf document known operation).outcome = .ok route.response
  bodyKey_eq : route.bodyKey = Naming.firstFree
    (route.pathParams.names ++ route.queryParams.names) (Naming.underscored bodyKeyword)
  method_eq : route.method = String.ofList (Text.lower method.toList)
  name_eq : route.name = nameOf route.method route.path operation
  operation_eq : route.operation = route.name

theorem exists_isReadFrom {route : Route}
    (h : (ofOperation document known method path operation item).outcome = .ok (some route)) :
    ∃ parameters, route.IsReadFrom document path known method operation item parameters := by
  rw [ofOperation, Report.outcome_bind_eq_ok] at h
  obtain ⟨template, htemplate, h⟩ := h
  split at h
  · rw [Report.outcome_bind_eq_ok] at h
    obtain ⟨_, _, h⟩ := h
    cases h
  · next resource hresource =>
    simp only [Report.outcome_bind_eq_ok] at h
    obtain ⟨parameters, hparameters, pathParams, hpath, queryParams, hquery, body, hbody, response,
      hresponse, h⟩ := h
    cases h
    exact ⟨parameters, eq_text_of_pathText htemplate, hresource, hparameters, hpath, hquery, hbody,
      hresponse, rfl, rfl, rfl, rfl⟩

/-- What is read off an operation that has a route. -/
theorem keeps_of_ofOperation {route : Route}
    (h : (ofOperation document known method path operation item).outcome = .ok (some route)) :
    route.Keeps document path operation item ∧ route.IsWellFormed := by
  obtain ⟨parameters, hread⟩ := exists_isReadFrom h
  have hqueryNames := names_of_querySchemas hread.queryParams_eq
  have hbodyKey := Naming.firstFree_not_mem (Naming.underscored_injective bodyKeyword)
    (route.pathParams.names ++ route.queryParams.names)
  rw [← hread.bodyKey_eq, List.mem_append, not_or] at hbodyKey
  constructor
  · exact ⟨hread.path_eq, ⟨parameters, hread.parameters_eq, hqueryNames⟩,
      isSome_of_bodyOf hread.body_eq⟩
  · constructor
    · exact names_of_pathSchemas hread.pathParams_eq
    · exact hqueryNames ▸ queryNames_collectParameters_nodup hread.parameters_eq
    · exact hbodyKey.1
    · exact hbodyKey.2

/-- How an operation that has a route names it. -/
theorem isNamedAfter_of_ofOperation {route : Route}
    (h : (ofOperation document known method path operation item).outcome = .ok (some route)) :
    route.IsNamedAfter method path operation := by
  obtain ⟨parameters, hread⟩ := exists_isReadFrom h
  exact ⟨hread.path_eq, hread.resource?_eq, hread.method_eq, hread.name_eq, hread.operation_eq⟩

/-- An operation is left out only where its path has no resource. -/
theorem resource?_eq_none_of_ofOperation
    (h : (ofOperation document known method path operation item).outcome = .ok none) :
    ∃ template, path = .text template ∧ PathTemplate.resource? template = none := by
  rw [ofOperation, Report.outcome_bind_eq_ok] at h
  obtain ⟨template, htemplate, h⟩ := h
  refine ⟨template, eq_text_of_pathText htemplate, ?_⟩
  split at h
  · assumption
  · simp only [Report.outcome_bind_eq_ok] at h
    obtain ⟨_, _, _, _, _, _, _, _, _, _, h⟩ := h
    cases h

/-! ## The input of a route -/

/-- The names of the query parameters that the input has. -/
def ownQueryNames (route : Route) : List String :=
  route.queryParams.names.filter fun name ↦ !route.pathParams.names.contains name

theorem names_ownQueryParams (route : Route) :
    route.ownQueryParams.names = route.ownQueryNames := by
  have hkept : (fun query : String × Bool × Schema ↦ !Named.has route.pathParams query.1) =
      (fun name ↦ !route.pathParams.names.contains name) ∘ Prod.fst := by
    funext query
    rw [Function.comp_apply, ← Named.has_eq_contains]
  rw [ownQueryParams, hkept]
  exact List.filter_map.symm

/-- The key of the body, where there is one. -/
def bodyKeys (route : Route) : List String :=
  if route.body.isSome then [route.bodyKey] else []

theorem names_inputProperties (route : Route) :
    Named.names route.inputProperties =
      route.pathParams.names ++ (route.ownQueryNames ++ route.bodyKeys) := by
  have hpath : Named.names (route.pathParams.map fun p ↦ (p.1, true, p.2)) =
      route.pathParams.names := by
    rw [Named.names, List.map_map]
    rfl
  have hbody : Named.names (route.body.map fun schema ↦
      (route.bodyKey, route.bodyRequired, schema)).toList = route.bodyKeys := by
    rw [bodyKeys]
    cases route.body <;> rfl
  rw [← route.names_ownQueryParams, ← hpath, ← hbody, ← List.append_assoc]
  simp only [inputProperties, Named.names, List.map_append]

/-- The properties of a well-formed route's input are apart from each other. -/
theorem IsWellFormed.names_inputProperties_nodup {route : Route} (h : route.IsWellFormed) :
    (Named.names route.inputProperties).Nodup := by
  rw [names_inputProperties, List.nodup_append, List.nodup_append]
  have hbody {name : String} (hname : name ∈ route.bodyKeys) : name = route.bodyKey := by
    rw [bodyKeys] at hname
    split at hname <;> simp_all
  refine ⟨h.pathParams_nodup, ⟨h.queryParams_nodup.filter _, ?_, ?_⟩, ?_⟩
  · rw [bodyKeys]
    split <;> simp
  · rintro query hquery _ hname rfl
    have hmem := (List.mem_filter.mp hquery).1
    exact h.bodyKey_not_query (hbody hname ▸ hmem)
  · rintro name hpath _ hother rfl
    rcases List.mem_append.mp hother with hquery | hname
    · have hown := (List.mem_filter.mp hquery).2
      simp [hpath] at hown
    · exact h.bodyKey_not_path (hbody hname ▸ hpath)

end ApiCompiler.Route
