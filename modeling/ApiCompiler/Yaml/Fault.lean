import ApiCompiler.Calendar
import ApiCompiler.Text.Literal
import ApiCompiler.Text.Number
import ApiCompiler.Value.Literal

/-!
# Faults of scalar values

A document in indented notation may be well formed and still hold a scalar that does not stand for a
value of its type. Such a fault is told apart from malformed text.
-/

namespace ApiCompiler

/-- The text of a calendar fault. -/
def CalendarFault.message : CalendarFault → String
  | year given => "year " ++ toString given ++ " is out of range"
  | month => "month must be in 1..12"
  | day => "day is out of range for month"
  | hour => "hour must be in 0..23"
  | minute => "minute must be in 0..59"
  | second => "second must be in 0..59"
  | offset seconds =>
    "offset must be a timedelta strictly between -timedelta(hours=24) and timedelta(hours=24), " ++
      "not " ++ String.ofList (durationChars seconds) ++ "."

namespace Yaml

/-- Why a scalar does not stand for a value of its type. -/
inductive ValueFault where
  | integer (base : Nat) (text : String)
  | tooManyDigits (count : Nat)
  | float (text : String)
  | floatTooLarge
  | calendar (fault : CalendarFault)
  | truth (text : String)
  | timestamp
  | timestampOfMapping
  | empty
  | codePoint
  | codePointTooLarge
  | endless
  deriving DecidableEq

/-- A text that is no integer is shown up to this length. -/
def maxShown : Nat := 200

/-- The text of a fault. -/
def ValueFault.message : ValueFault → String
  | integer base text =>
    "invalid literal for int() with base " ++ toString base ++ ": " ++
      String.ofList ((Text.literal text).toList.take maxShown)
  | tooManyDigits count => Text.tooManyDigitsMessage count
  | float text => "could not convert string to float: " ++ Text.literal text
  | floatTooLarge => "int too large to convert to float"
  | calendar fault => fault.message
  | truth text => Text.literal text
  | timestamp => "'NoneType' object has no attribute 'groupdict'"
  | timestampOfMapping => "expected string or bytes-like object, got 'list'"
  | empty => "string index out of range"
  | codePoint => "chr() arg not in range(0x110000)"
  | codePointTooLarge => Text.codePointTooLargeMessage
  | endless => "maximum recursion depth exceeded"

end Yaml

end ApiCompiler
