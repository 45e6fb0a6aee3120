import Rulebook.Quoting
import Rulebook.Value

/-!
# Resolved values

A token that is not missing resolves to a number, a text or a truth value.
Operators are applied to such values.
-/

namespace Rulebook

/-- What a token that is not missing resolves to. -/
inductive Resolved where
  | number (value : Float)
  | text (value : String)
  | boolean (value : Bool)
deriving DecidableEq, Repr

namespace Resolved

def kind : Resolved → ValueKind
  | .number _ => .numeric
  | .text _ => .string
  | .boolean _ => .boolean

/-- The text of a resolved value inside a trace entry. -/
def describe : Resolved → String
  | .number value => "Number(" ++ Decimal.marked value ++ ")"
  | .text value => "Text(" ++ Quoting.quoted value ++ ")"
  | .boolean value => "Bool(" ++ toString value ++ ")"

/-- The text of a value that may be missing inside a trace entry. -/
def describeOption : Option Resolved → String
  | none => "None"
  | some value => "Some(" ++ value.describe ++ ")"

end Resolved

namespace Value

/-- What a fact of this value resolves to, which is nothing for null. -/
def resolved? : Value → Option Resolved
  | .int number => some (.number (Float.ofInt number.toInt))
  | .float number => some (.number number)
  | .boolean truth => some (.boolean truth)
  | .text content => some (.text content)
  | .null => none

end Value

end Rulebook
