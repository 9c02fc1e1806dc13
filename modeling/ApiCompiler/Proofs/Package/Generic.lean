import ApiCompiler.Document.Sample
import ApiCompiler.Proofs.Model.Scope
import ApiCompiler.Proofs.Package.Forwarding
import ApiCompiler.Proofs.Route

/-!
# Calls in the default order

Where nothing else is stated for an operation, its procedure passes the path parameters by position,
then the query parameters as one mapping, then the body. Four lists agree for this: the templates of
the path, the properties of the input, the fields of its model and the parameters of the client
method. So the call reads every field of the model once, in order, and finds all of them.
-/

namespace ApiCompiler.Package

open Document.Sample (object)
open Naming (IsUsable)

/-- The fields that an argument reads. -/
def Passed.fields : Passed → List String
  | field name => [name]
  | mapping entries => entries.map Prod.snd

/-- The fields that a forwarding expression reads, in order. -/
def ForwardingCall.fields (call : ForwardingCall) : List String :=
  call.arguments.flatMap fun a ↦ a.value.fields

/-- The arguments of a call in the default order: one by position for each template, one mapping if
there are query parameters, and the body if there is one. -/
def genericCall (fields : Named String) (templates queries bodyKeys : List String) :
    List PassedArgument :=
  templates.map (fun template ↦ ⟨none, .field (valueAt fields template)⟩) ++
    (if queries.isEmpty then []
      else [⟨some "query", .mapping ((queries.filter fun query ↦ !templates.contains query).map
        fun query ↦ (query, valueAt fields query))⟩]) ++
    bodyKeys.map fun bodyKey ↦ ⟨some "data", .field (valueAt fields bodyKey)⟩

variable {fields : Named String} {route : Route}

/-! ## The default arguments -/

theorem span_genericArguments (route : Route) :
    leading (Call.genericArguments route) =
        route.pathParams.names.map (Argument.plain .path) ∧
      following (Call.genericArguments route) =
        (if route.queryParams.isEmpty then [] else [Argument.plain .query Route.queryKeyword]) ++
          route.bodyKeys.map (Argument.plain .body) := by
  have hpath : ∀ a ∈ route.pathParams.names.map (Argument.plain .path),
      (a.kind == ArgumentKind.path) = true := by
    intro a ha
    obtain ⟨name, _, rfl⟩ := List.mem_map.mp ha
    rfl
  have hbody : (if route.body.isNone then [] else [Argument.plain .body route.bodyKey]) =
      route.bodyKeys.map (Argument.plain .body) := by
    rw [Route.bodyKeys]
    cases route.body <;> rfl
  rw [leading, following, Call.genericArguments, hbody, List.append_assoc,
    List.takeWhile_append_of_pos hpath, List.dropWhile_append_of_pos hpath]
  rw [Route.bodyKeys]
  cases route.queryParams.isEmpty <;> cases route.body.isSome <;>
    simp [Argument.plain]

/-- Where the input has all of them, the query parameters that do not collide are passed. -/
theorem queryEntries_eq (h : route.ownQueryNames ⊆ fields.names) :
    queryEntries fields route =
      route.ownQueryNames.map fun query ↦ (query, valueAt fields query) := by
  have hentries (queries : Properties)
      (hqueries : (queries.names.filter fun name ↦ !route.pathParams.names.contains name) ⊆
        fields.names) :
      queries.filterMap (fun query ↦ if Named.has route.pathParams query.1 then none
        else (fields.find? query.1).map fun field ↦ (query.1, field)) =
      (queries.names.filter fun name ↦ !route.pathParams.names.contains name).map
        fun query ↦ (query, valueAt fields query) := by
    induction queries with
    | nil => rfl
    | cons query rest ih =>
      rw [Named.names_cons, List.filter_cons] at hqueries ⊢
      rw [List.filterMap_cons, Named.has_eq_contains]
      cases hcontains : route.pathParams.names.contains query.1 with
      | true =>
        rw [hcontains] at hqueries
        exact ih hqueries
      | false =>
        rw [hcontains] at hqueries
        have hquery := hqueries (List.mem_cons_self ..)
        simp only [Bool.false_eq_true, if_false, Bool.not_false, if_true, List.map_cons,
          find?_eq_valueAt hquery, Option.map_some]
        exact congrArg _ (ih fun name hname ↦ hqueries (List.mem_cons_of_mem _ hname))
  exact hentries route.queryParams h

/-- A call in the default order passes the default arguments. -/
theorem passedArguments_genericArguments (params : Named String)
    (h : route.ownQueryNames ⊆ fields.names) :
    passedArguments fields params route false (Call.genericArguments route) =
      genericCall fields route.pathParams.names route.queryParams.names route.bodyKeys := by
  obtain ⟨hleading, hfollowing⟩ := span_genericArguments route
  have hpath (name : String) : passedValue fields route (Argument.plain .path name) =
      .field (valueAt fields name) := rfl
  rw [passedArguments_false, hleading, hfollowing, genericCall, List.map_map, List.map_append,
    List.append_assoc]
  congr 1
  congr 1
  · rw [Named.names, List.isEmpty_map]
    cases route.queryParams.isEmpty with
    | true => rfl
    | false =>
      simp only [Bool.false_eq_true, if_false, List.map_cons, List.map_nil]
      rw [passedValue, keywordOf]
      simp only [Argument.plain]
      rw [queryEntries_eq h]
      rfl
  · rw [List.map_map, Route.bodyKeys]
    cases route.body.isSome <;> rfl

/-- The default arguments read the fields of the input in order. -/
theorem fields_genericCall (fields : Named String) (templates queries bodyKeys : List String) :
    (genericCall fields templates queries bodyKeys).flatMap (fun a ↦ a.value.fields) =
      (templates ++ ((queries.filter fun query ↦ !templates.contains query) ++ bodyKeys)).map
        (valueAt fields) := by
  have hsingle (names : List String) (keyword : Option String) :
      (names.map fun name ↦ (⟨keyword, .field (valueAt fields name)⟩ : PassedArgument)).flatMap
        (fun a ↦ a.value.fields) = names.map (valueAt fields) := by
    rw [List.flatMap_map]
    exact (List.map_eq_flatMap ..).symm
  rw [genericCall, List.flatMap_append, List.flatMap_append, hsingle, hsingle, List.map_append,
    List.map_append, List.append_assoc]
  congr 2
  cases queries with
  | nil => rfl
  | cons query rest =>
    simp [Passed.fields, Function.comp_def]

/-! ## Operations without an override -/

/-- The forwarding expression of a route in the default order, with the model of the input: the
client parameters stand for the templates of the path and can be written; the call passes the
templates by position, the query parameters that the operation declares, and the body if it has one;
and it reads the fields of the model, each of them once. -/
structure IsGeneric (route : Route) (parameters : List Route.Parameter) (hasBody : Bool)
    (model : Model) (call : ForwardingCall) : Prop where
  params_names : (clientParams route).names = PathTemplate.params route.path
  params_nodup : ((clientParams route).map Prod.snd).Nodup
  params_isUsable : ∀ param ∈ (clientParams route).map Prod.snd, IsUsable clientParameters param
  arguments_eq : call.arguments = genericCall model.names (PathTemplate.params route.path)
    (Route.queryNames parameters) (if hasBody then [route.bodyKey] else [])
  properties_eq : model.names.names = PathTemplate.params route.path ++
    (((Route.queryNames parameters).filter fun query ↦
      !(PathTemplate.params route.path).contains query) ++
    if hasBody then [route.bodyKey] else [])
  properties_nodup : model.names.names.Nodup
  fields_eq : call.fields = model.fields.map ModelField.name
  fields_nodup : call.fields.Nodup

theorem isGeneric_of_arguments_eq {parameters : List Route.Parameter} {container : Value}
    {model : Model} {call : ForwardingCall}
    (hwellFormed : route.IsWellFormed)
    (hqueries : route.queryParams.names = Route.queryNames parameters)
    (hbody : route.body.isSome = (Route.jsonSchema? container).isSome)
    (hmodel : model.HasFieldsFor (Named.names route.inputProperties))
    (hcall : call.arguments = genericCall model.names route.pathParams.names
      route.queryParams.names route.bodyKeys) :
    IsGeneric route parameters (Route.jsonSchema? container).isSome model call := by
  have hproperties := hmodel.names_eq
  have hnodup : model.names.names.Nodup :=
    hproperties ▸ hwellFormed.names_inputProperties_nodup
  have hfields : call.fields = model.fields.map ModelField.name := by
    calc
      call.fields = (Named.names route.inputProperties).map (valueAt model.names) := by
        rw [ForwardingCall.fields, hcall, fields_genericCall, Route.names_inputProperties]
        rfl
      _ = model.names.map Prod.snd := by rw [map_snd_eq_map_valueAt hnodup, hproperties]
      _ = model.fields.map ModelField.name := hmodel.map_name.symm
  rw [Route.names_inputProperties, Route.ownQueryNames, Route.bodyKeys,
    hwellFormed.pathParams_names, hqueries, hbody] at hproperties
  constructor
  · rw [names_clientParams, hwellFormed.pathParams_names]
  · exact clientParams_nodup route
  · exact fun param hparam ↦ clientParams_isUsable hparam
  · rw [hcall, hwellFormed.pathParams_names, hqueries, Route.bodyKeys, hbody]
  · exact hproperties
  · exact hnodup
  · exact hfields
  · rw [hfields, hmodel.map_name]
    exact hmodel.names_nodup

/-- A route whose operation has no override is forwarded in the default order, whatever module its
input becomes a model of. -/
theorem exists_genericCall {document path : Value} {known : Option (List String)} {method : String}
    {operation item : Value.Entries} {overrides : Overrides}
    (h : (Route.ofOperation document known method path operation item).outcome = .ok (some route))
    (hoverride : Call.override? overrides route.operation = none) (components : ComponentNames)
    (name : String) (scope : ModelScope) :
    path = .text route.path ∧ ∃ parameters container model call forwarding,
      (Route.collectParameters document operation item).outcome = .ok parameters ∧
      (Document.deref document ((operation.get? "requestBody").getD .null)).outcome =
        .ok container ∧
      (route.inputSchema.hoist components name scope).2.models.getLast? = some model ∧
      model.name = (route.inputSchema.hoist components name scope).1 ∧
      (Call.bind overrides route).outcome = .ok call ∧
      (forwardingCall model.names route call).outcome = .ok forwarding ∧
      IsGeneric route parameters (Route.jsonSchema? container).isSome model forwarding := by
  obtain ⟨⟨hpath, ⟨parameters, hparameters, hqueries⟩, container, hcontainer, hbody⟩,
    hwellFormed⟩ := Route.keeps_of_ofOperation h
  obtain ⟨model, hlast, hclass, hmodel⟩ :=
    Schema.exists_model_of_hoist components route.inputSchema name scope
  have hcomplete := Call.isComplete_genericArguments route
  have hproperties : model.names.names = Named.names route.inputProperties := hmodel.names_eq
  have hown : route.ownQueryNames ⊆ model.names.names := by
    rw [hproperties, Route.names_inputProperties]
    exact fun query hquery ↦ List.mem_append_right _ (List.mem_append_left _ hquery)
  have harguments := outcome_passArguments model.names (keyText_mem_clientParams hcomplete)
    (fun key hkey ↦ hproperties ▸ boundKeys_subset_inputProperties hcomplete
      (lookups_subset_boundKeys route _ hkey)) false
  let call : Call := ⟨Naming.namespaceOf route.resource, route.operation,
    Naming.functionOf route.operation, Call.genericArguments route⟩
  have hcall : (Call.bind overrides route).outcome = .ok call := by
    rw [Call.bind, Call.argumentsOf, hoverride]
    rfl
  have hforwarding : (forwardingCall model.names route call).outcome =
      .ok ⟨call.resourceNamespace, call.methodName,
        passedArguments model.names (clientParams route) route false call.arguments⟩ := by
    rw [forwardingCall, Report.outcome_bind_of_ok harguments]
    rfl
  exact ⟨hpath, parameters, container, model, call, _, hparameters, hcontainer, hlast, hclass,
    hcall, hforwarding, isGeneric_of_arguments_eq hwellFormed hqueries hbody hmodel
      (passedArguments_genericArguments _ hown)⟩

/-- A write whose parameters collide with each other, with the body and with reserved words. -/
def collidingOperation : Value.Entries :=
  let query (name : String) := object [("name", .text name), ("in", .text "query")]
  let content := object [("application/json", object [("schema", object [])])]
  [(.text "operationId", .text "putItem"),
    (.text "parameters", .list [query "data", query "2nd"]),
    (.text "requestBody", object [("content", content)])]

/-- Its call reads four fields for two path parameters, a query parameter and the body. -/
theorem collidingOperation_isGeneric : ∃ route parameters model call forwarding,
    (Route.ofOperation .null none "put" (.text "/items/\x7bdata\x7d/\x7bclass\x7d")
      collidingOperation []).outcome = .ok (some route) ∧
    Call.override? [] route.operation = none ∧
    (route.inputSchema.hoist (fun _ _ ↦ none) "Input" (.empty [])).2.models.getLast? =
      some model ∧
    (Call.bind [] route).outcome = .ok call ∧
    (forwardingCall model.names route call).outcome = .ok forwarding ∧
    forwarding.text = "ctx.api.items.put_item(input.data, input.class_, " ++
      "query=\x7b'2nd': input.field_2nd\x7d, data=input.data_)" ∧
    IsGeneric route parameters true model forwarding := by
  obtain ⟨_, h, route, rfl, hoverride, model, hmodel, call, hcall, forwarding, hforwarding, htext⟩ :
      ∃ read, (Route.ofOperation .null none "put" (.text "/items/\x7bdata\x7d/\x7bclass\x7d")
        collidingOperation []).outcome = .ok read ∧
      ∃ route ∈ read, (Call.override? [] route.operation).isNone = true ∧
        ∃ model ∈ (route.inputSchema.hoist (fun _ _ ↦ none) "Input" (.empty [])).2.models.getLast?,
          ∃ call, (Call.bind [] route).outcome = .ok call ∧
            ∃ forwarding, (forwardingCall model.names route call).outcome = .ok forwarding ∧
              forwarding.text = "ctx.api.items.put_item(input.data, input.class_, " ++
                "query=\x7b'2nd': input.field_2nd\x7d, data=input.data_)" := by
    decide +kernel
  obtain ⟨_, hcontainer, hbody⟩ : ∃ container, (Document.deref .null
      ((Value.Keyed.get? collidingOperation "requestBody").getD .null)).outcome = .ok container ∧
      (Route.jsonSchema? container).isSome = true := by
    decide +kernel
  have hnone := Option.isNone_iff_eq_none.mp hoverride
  obtain ⟨_, parameters, _, _, _, _, _, hread, hlast, _, hbound, hpassed, hgeneric⟩ :=
    exists_genericCall h hnone (fun _ _ ↦ none) "Input" (.empty [])
  cases hmodel.symm.trans hlast
  cases hcall.symm.trans hbound
  cases hforwarding.symm.trans hpassed
  cases hcontainer.symm.trans hread
  rw [hbody] at hgeneric
  exact ⟨route, parameters, model, call, forwarding, h, hnone, hmodel, hcall, hforwarding, htext,
    hgeneric⟩

end ApiCompiler.Package
