import ApiCompiler.Binary64
import ApiCompiler.Calendar

/-!
# Document values

The values that a document in either of the two accepted notations can hold. The keys of a mapping
are values too, kept in document order, and each key occurs once. Equality of keys is numeric, as in
the generated language: one, one point zero and true are one key. A collection of a document may be
a part of itself; it is unfolded to some depth, and stands as `endless` there. The types of values
have names, under which they appear in error messages.
-/

namespace ApiCompiler

/-- A value of a parsed document. -/
inductive Value where
  | null
  | bool (b : Bool)
  | int (n : Int)
  | float (x : Binary64)
  | text (s : String)
  | list (items : List Value)
  | map (entries : List (Value × Value))
  | date (d : Date)
  | timestamp (t : Timestamp)
  | bytes (content : List UInt8)
  | set (members : List Value)
  | endless

namespace Value

instance : Inhabited Value :=
  ⟨null⟩

/-- What stands under keys, in order. -/
abbrev Keyed (α : Type) := List (Value × α)

/-- Entries of a mapping, in order. -/
abbrev Entries := Keyed Value

/-- The integer a value counts as in comparisons. -/
def integer? : Value → Option Int
  | bool b => some (if b then 1 else 0)
  | int n => some n
  | float x => x.toInt?
  | _ => none

/-- Equality of values that hold no others: numbers and truth values compare by amount, and the
undefined number is itself. -/
def equalsAtom : Value → Value → Bool
  | null, null => true
  | text a, text b => a == b
  | float a, float b => a == b || a.equals b
  | date a, date b => a == b
  | timestamp a, timestamp b => a.equals b
  | bytes a, bytes b => a == b
  | a, b =>
    match a.integer?, b.integer? with
    | some m, some n => m == n
    | _, _ => false

mutual
/-- Equality of values; the order of entries does not matter. -/
def equals : Value → Value → Bool
  | list a, list b => equalsList a b
  | map a, map b => a.length == b.length && containedIn a b
  | set a, set b => a.length == b.length && membersIn a b
  | a, b => equalsAtom a b
termination_by structural a => a
/-- Equality of lists, item by item. -/
def equalsList : List Value → List Value → Bool
  | [], [] => true
  | a :: as, b :: bs => equals a b && equalsList as bs
  | _, _ => false
termination_by structural a => a
/-- Each entry of the first list has an equal one in the second. -/
def containedIn : Entries → Entries → Bool
  | [], _ => true
  | (k, v) :: rest, other =>
    (other.any fun entry ↦ equals k entry.1 && equals v entry.2) && containedIn rest other
termination_by structural a => a
/-- Each member of the first list has an equal one in the second. -/
def membersIn : List Value → List Value → Bool
  | [], _ => true
  | a :: rest, other => (other.any fun b ↦ equals a b) && membersIn rest other
termination_by structural a => a
end

/-- A value that may be a key: not a list, a mapping or a set. -/
def isHashable : Value → Bool
  | list _ => false
  | map _ => false
  | set _ => false
  | endless => false
  | _ => true

/-- A value that counts as present: not null, false, zero or empty. -/
def isTruthy : Value → Bool
  | null => false
  | bool b => b
  | int n => n != 0
  | float x => !x.isZero
  | text s => s != ""
  | list items => !items.isEmpty
  | map entries => !entries.isEmpty
  | bytes content => !content.isEmpty
  | set members => !members.isEmpty
  | date _ => true
  | timestamp _ => true
  | endless => true

/-- Exactly the value true, and not a number equal to it. -/
def isTrue : Value → Bool
  | bool b => b
  | _ => false

/-- Exactly the value false. -/
def isFalse : Value → Bool
  | bool b => !b
  | _ => false

/-- A mapping. -/
def isMap : Value → Bool
  | map _ => true
  | _ => false

/-- The text of a textual value. -/
def text? : Value → Option String
  | text s => some s
  | _ => none

/-- The entries of a mapping. -/
def map? : Value → Option Entries
  | map entries => some entries
  | _ => none

namespace Keyed

variable {α : Type}

/-- What stands under a key. -/
def lookup? (entries : Keyed α) (key : Value) : Option α :=
  (List.find? (fun entry ↦ entry.1.equals key) entries).map Prod.snd

/-- A key that is a given text. -/
def keyIs (name : String) : Value → Bool
  | text s => s == name
  | _ => false

/-- What stands under a textual key. -/
def get? (entries : Keyed α) (name : String) : Option α :=
  (List.find? (fun entry ↦ keyIs name entry.1) entries).map Prod.snd

/-- Whether a textual key is present. -/
def has (entries : Keyed α) (name : String) : Bool :=
  (entries.get? name).isSome

/-- Puts something under a key, in place when the key is present and at the end otherwise. -/
def put (entries : Keyed α) (key : Value) (a : α) : Keyed α :=
  if entries.any fun entry ↦ entry.1.equals key then
    entries.map fun entry ↦ if entry.1.equals key then (entry.1, a) else entry
  else entries ++ [(key, a)]

/-- Puts something under a textual key. -/
def putText (entries : Keyed α) (name : String) (a : α) : Keyed α :=
  entries.put (text name) a

/-- Removes a textual key. -/
def remove (entries : Keyed α) (name : String) : Keyed α :=
  entries.filter fun entry ↦ !keyIs name entry.1

/-- The entries of a list of pairs, a later one of a key replacing an earlier one in its place. -/
def ofList (pairs : List (Value × α)) : Keyed α :=
  pairs.foldl (fun entries pair ↦ entries.put pair.1 pair.2) []

end Keyed

/-- The value under a textual key of a mapping. -/
def get? (v : Value) (name : String) : Option Value :=
  v.map?.bind fun entries ↦ entries.get? name

end Value

end ApiCompiler

namespace ApiCompiler.Value

/-! ## Names of types -/

/-- The name of a value's type. -/
def typeName : Value → String
  | null => "NoneType"
  | bool _ => "bool"
  | int _ => "int"
  | float _ => "float"
  | text _ => "str"
  | list _ => "list"
  | map _ => "dict"
  | date _ => "datetime.date"
  | timestamp _ => "datetime.datetime"
  | bytes _ => "bytes"
  | set _ => "set"
  | endless => "dict"

end ApiCompiler.Value
