import ApiCompiler.Model

/-!
# Component schemas as classes and aliases

A component that is an object with properties becomes a class, every other one an alias. Aliases are
evaluated when the module is loaded, so an alias comes after the aliases that it refers to. In a
cycle of aliases the reference that closes it admits anything.
-/

namespace ApiCompiler.Package

/-- An alias for an annotation. -/
structure Alias where
  /-- Its name. -/
  name : String
  /-- What it stands for. -/
  type : TypeExpr

/-- The content of the module of component schemas. -/
structure ComponentModule where
  /-- The classes in dependency order. -/
  models : List Model
  /-- The aliases, each after those it refers to. -/
  aliases : List Alias

/-- The class names of components in order, given the names taken before. -/
def classNamesFrom (taken : List String) : List String → Named String
  | [] => []
  | component :: rest =>
    let base := ModelScope.className component "Schema"
    let name := Naming.firstFree taken (Naming.numbered base "")
    (component, name) :: classNamesFrom (name :: taken) rest

/-- The class or alias name of each component. -/
def classNames (components : List String) : Named String :=
  classNamesFrom moduleNames components

/-- Whether a component becomes a class. -/
def isClass : Schema → Bool
  | .object _ (_ :: _) => true
  | _ => false

/-- The component that an alias refers to directly or as the item of arrays. -/
def aliasTarget? : Schema → Option String
  | .ref _ name => some name
  | .array _ items => aliasTarget? items
  | _ => none

/-- The component that an alias of the table refers to. -/
def nextAlias? (table : SchemaTable) (name : String) : Option String :=
  (Named.find? table name).bind aliasTarget?

/-- The names other than a given one. -/
def withoutName (names : List String) (name : String) : List String :=
  names.filter fun other ↦ other != name

theorem length_withoutName_lt {names : List String} {name : String} (h : name ∈ names) :
    (withoutName names name).length < names.length :=
  List.length_filter_lt_length_iff_exists.mpr ⟨name, h, by simp⟩

/-- The pending aliases on the chain of references from a name. -/
def aliasChain (table : SchemaTable) (pending : List String) (name : String) : List String :=
  if h : name ∈ pending then
    have := length_withoutName_lt h
    name :: (match nextAlias? table name with
      | none => []
      | some next => aliasChain table (withoutName pending name) next)
  else []
termination_by pending.length

/-- The aliases in an order in which each comes after those it refers to, cycles apart. -/
def orderAliases (table : SchemaTable) (pending : List String) : List String → List String
  | [] => []
  | name :: rest =>
    let chain := aliasChain table pending name
    chain.reverse ++ orderAliases table (pending.filter fun n ↦ !chain.contains n) rest

/-- The components that become aliases, in table order. -/
def aliasNames (table : SchemaTable) : List String :=
  (table.filter fun entry ↦ !isClass entry.2).map Prod.fst

/-- The components that become classes. -/
def classEntries (table : SchemaTable) : SchemaTable :=
  table.filter fun entry ↦ isClass entry.2

/-- The names that an annotation may use: classes always, aliases inside a class or once they have
been emitted. -/
def visibleComponents (names : Named String) (classes emitted : List String) : ComponentNames :=
  fun inModel component ↦
    if inModel || classes.contains component || emitted.contains component then
      Named.find? names component
    else none

/-- Makes the classes of components. -/
def hoistClasses (names : Named String) (classes : List String) :
    SchemaTable → ModelScope → ModelScope
  | [], scope => scope
  | (component, schema) :: rest, scope =>
    hoistClasses names classes rest
      (schema.hoistAs (visibleComponents names classes []) ((names.find? component).getD "") scope)

/-- Renders aliases in order. -/
def renderAliases (table : SchemaTable) (names : Named String) (classes emitted : List String) :
    List String → ModelScope → List Alias × ModelScope
  | [], scope => ([], scope)
  | component :: rest, scope =>
    let schema := (Named.find? table component).getD default
    let name := (names.find? component).getD ""
    let (type, scope) :=
      schema.render (visibleComponents names classes emitted) false name scope
    let (aliases, scope) := renderAliases table names classes (component :: emitted) rest scope
    (⟨name, type⟩ :: aliases, scope)

/-- The module of component schemas. -/
def componentModule (table : SchemaTable) (names : Named String) : ComponentModule :=
  let classes := classEntries table
  let classList := Named.names classes
  let scope := hoistClasses names classList classes (ModelScope.empty (names.map Prod.snd))
  let pending := aliasNames table
  let (aliases, scope) :=
    renderAliases table names classList [] (orderAliases table pending pending) scope
  ⟨scope.models, aliases⟩

end ApiCompiler.Package
