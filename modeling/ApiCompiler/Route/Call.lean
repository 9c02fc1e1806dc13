import ApiCompiler.Route

/-!
# Forwarding calls

A procedure forwards its input to one method of the client. By default the call passes the path
parameters in order, then the query parameters together, then the body. An override for the
operation replaces this order; it must still pass every path parameter.
-/

namespace ApiCompiler

open Value (Entries Keyed)

/-- What an argument of a forwarding call passes on. -/
inductive ArgumentKind where
  | path
  | query
  | body
  deriving DecidableEq

/-- The written name of an argument kind. -/
def ArgumentKind.name : ArgumentKind → String
  | path => "path"
  | query => "query"
  | body => "body"

/-- The argument kind with a written name. -/
def ArgumentKind.ofValue? : Value → Option ArgumentKind
  | .text "path" => some path
  | .text "query" => some query
  | .text "body" => some body
  | _ => none

/-- An argument of a forwarding call, with the mapping that states it. -/
structure Argument where
  /-- What it passes on. -/
  kind : ArgumentKind
  /-- The path parameter, or a label for the other kinds. -/
  key : Value
  /-- The mapping that states it. -/
  written : Entries

/-- An argument that states its kind and key only. -/
def Argument.plain (kind : ArgumentKind) (key : String) : Argument :=
  ⟨kind, .text key, [(.text "kind", .text kind.name), (.text "key", .text key)]⟩

/-- Whether an argument passes a path parameter. -/
def Argument.passes (argument : Argument) (name : String) : Bool :=
  argument.kind == .path && Keyed.keyIs name argument.key

/-- The forwarding call of a route. -/
structure Call where
  /-- The attribute of the client that has the method. -/
  resourceNamespace : String
  /-- The operation that is called. -/
  operation : String
  /-- The method. -/
  methodName : String
  /-- The arguments in order. -/
  arguments : List Argument

/-- Arguments by operation, as callers state them. -/
abbrev Overrides := Named Value

namespace Call

/-- Operations whose call never follows the default order: a listing whose filters travel in the
body, and one whose body is ignored. -/
def builtinOverrides : Overrides :=
  [("listCreate",
      .list [.map [(.text "kind", .text "body"), (.text "key", .text Route.bodyKeyword)]]),
    ("terminateAllCreate", .list [])]

/-- The override of an operation; the caller's go before the built-in ones. -/
def override? (overrides : Overrides) (operation : String) : Option Value :=
  match Named.find? overrides operation with
  | some arguments => some arguments
  | none => Named.find? builtinOverrides operation

/-- The items of a value that can be gone through. -/
def items? : Value → Option (List Value)
  | .list items => some items
  | .map entries => some (entries.map Prod.fst)
  | .text s => some (s.toList.map fun c ↦ .text (String.ofList [c]))
  | .set members => some members
  | .bytes content => some (content.map fun b ↦ .int b.toNat)
  | _ => none

/-- An item of a list of pairs as a pair. -/
def pairOf (index : Nat) (item : Value) : Report (Value × Value) :=
  match items? item with
  | none => .fail (.overrideShape (.notPair index))
  | some [key, value] =>
    if key.isHashable then pure (key, value) else .fail (.unhashable key)
  | some parts => .fail (.overrideShape (.pairLength index parts.length))

/-- A list of pairs as entries. -/
def entriesFrom (known : Entries) (index : Nat) : List Value → Report Entries
  | [] => pure known
  | item :: rest => do
    let (key, value) ← pairOf index item
    entriesFrom (known.put key value) (index + 1) rest

/-- An argument as entries: a mapping, or a list of pairs. -/
def argumentEntries : Value → Report Entries
  | .map entries => pure entries
  | v =>
    match items? v with
    | none => .fail (.overrideShape (.notIterable v))
    | some items => entriesFrom [] 0 items

/-- The arguments of an override as entries, before they are checked. -/
def overrideEntries : List Value → Report (List Entries)
  | [] => pure []
  | argument :: rest => do
    let entries ← argumentEntries argument
    return entries :: (← overrideEntries rest)

/-- An argument of an override: it has a kind and a key, a path argument names a path parameter, and
a body argument needs a body. -/
def checkArgument (route : Route) (written : Entries) : Report Argument :=
  let invalid : Report Argument := .fail (.invalidOverride route.operation (.map written))
  match ArgumentKind.ofValue? ((written.get? "kind").getD .null), written.get? "key" with
  | some kind, some key =>
    if !key.isTruthy then invalid
    else
      match kind with
      | .path =>
        if !key.isHashable then .fail (.unhashable key)
        else if route.pathParams.names.any fun name ↦ Keyed.keyIs name key then
          pure ⟨kind, key, written⟩
        else invalid
      | .query => pure ⟨kind, key, written⟩
      | .body => if route.body.isNone then invalid else pure ⟨kind, key, written⟩
  | _, _ => invalid

/-- The arguments of an override. -/
def checkArguments (route : Route) : List Entries → Report (List Argument)
  | [] => pure []
  | written :: rest => do
    let argument ← checkArgument route written
    return argument :: (← checkArguments route rest)

/-- The path parameters that arguments leave out. -/
def missing (route : Route) (arguments : List Argument) : List String :=
  route.pathParams.names.filter fun name ↦ !arguments.any fun argument ↦ argument.passes name

/-- The arguments that an override states for a route. -/
def overriddenArguments (route : Route) (override : Value) : Report (List Argument) := do
  match items? override with
  | none => .fail (.overrideShape (.notIterable override))
  | some items =>
    let arguments ← checkArguments route (← overrideEntries items)
    match missing route arguments with
    | [] => return arguments
    | names => .fail (.overrideLeavesOut route.operation names)

/-- The arguments in the default order. -/
def genericArguments (route : Route) : List Argument :=
  route.pathParams.names.map (Argument.plain .path) ++
    (if route.queryParams.isEmpty then [] else [Argument.plain .query Route.queryKeyword]) ++
    (if route.body.isNone then [] else [Argument.plain .body route.bodyKey])

/-- The arguments of a route's call. -/
def argumentsOf (overrides : Overrides) (route : Route) : Report (List Argument) :=
  match override? overrides route.operation with
  | some override => overriddenArguments route override
  | none => pure (genericArguments route)

/-- The forwarding call of a route. -/
def bind (overrides : Overrides) (route : Route) : Report Call := do
  let arguments ← argumentsOf overrides route
  return ⟨Naming.namespaceOf route.resource, route.operation, Naming.functionOf route.operation,
    arguments⟩

end Call

end ApiCompiler
