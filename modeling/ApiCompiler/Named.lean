/-!
# Named collections

Values under textual names, in the order in which the names were first given. Each name occurs once
when the collection is built by `put`.
-/

namespace ApiCompiler

/-- Values under names, in order. -/
abbrev Named (α : Type) := List (String × α)

namespace Named

variable {α β : Type}

/-- The value under a name. -/
def find? (entries : Named α) (name : String) : Option α :=
  List.lookup name entries

/-- Whether a name is present. -/
def has (entries : Named α) (name : String) : Bool :=
  entries.any fun entry ↦ entry.1 == name

/-- Sets the value under a name, in place when the name is present and at the end otherwise. -/
def put : Named α → String → α → Named α
  | [], name, value => [(name, value)]
  | (n, v) :: rest, name, value =>
    if n == name then (n, value) :: rest else (n, v) :: put rest name value

/-- The names in order. -/
def names (entries : Named α) : List String :=
  entries.map Prod.fst

/-- The collection of a list of pairs, a later value of a name replacing an earlier one. -/
def ofPairs (pairs : List (String × α)) : Named α :=
  pairs.foldl (fun entries pair ↦ entries.put pair.1 pair.2) []

end Named

end ApiCompiler
