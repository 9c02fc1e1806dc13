import ApiCompiler.Naming.Identifier
import ApiCompiler.Naming.Spelling
import ApiCompiler.Text.Identifier

/-!
# Names of model fields

Each property of a model becomes a field with a name that no other property of the model has, that
is not reserved, and that stays clear of the attributes of the model base class. A property whose
name already is such an identifier keeps it, up to underscores at the end.
-/

namespace ApiCompiler.Model

/-- Attributes of the base class that a field must not replace. -/
def baseAttributes : List String :=
  ["copy", "dict", "json", "schema", "schema_json", "construct", "validate", "parse_obj",
    "parse_raw", "parse_file", "from_orm", "update_forward_refs", "fields"]

/-- A text that begins as the names do which the base class keeps for itself. -/
def beginsReserved (chars : List Char) : Bool :=
  "model_".toList.isPrefixOf chars

/-- A property name that can be a field name as it stands. -/
def isPlain (property : String) : Bool :=
  Text.isIdentifier property && property.toList.head? != some '_' &&
    !beginsReserved property.toList && !baseAttributes.contains property

/-- The field name that any other property name gives rise to. -/
def derivedName (property : String) : String :=
  let chars := (Naming.snakeIdentifierChars property.toList).dropWhile (· == '_')
  let chars := if chars.isEmpty then "field".toList else chars
  if beginsReserved chars || (chars.head?.map Text.isAnyDigit).getD false then
    String.ofList ("field_".toList ++ chars)
  else String.ofList chars

/-- The field name of a property, clear of the names taken so far. -/
def fieldName (taken : List String) (property : String) : String :=
  if isPlain property then Naming.identifier property taken
  else Naming.identifier (derivedName property) (taken ++ baseAttributes)

/-- The field names of properties in order, with the names taken before each. -/
def fieldNamesFrom (taken : List String) : List String → List (String × String)
  | [] => []
  | property :: rest =>
    let name := fieldName taken property
    (property, name) :: fieldNamesFrom (name :: taken) rest

/-- The field names of the properties of a model, clear of the reserved names. -/
def fieldNames (properties reserved : List String) : List (String × String) :=
  fieldNamesFrom reserved properties

end ApiCompiler.Model
