import Rulebook.Decimal.Layout

/-!
# Values of facts

A fact holds an integer, a floating-point number, a truth value, a text, or an
explicit null.  The two sorts of number are one kind, so a rule that asks for a
number accepts either; as values they stay apart, and the integer one is not
the floating-point one.  Null has no kind and stands for the absence of a value.
-/

namespace Rulebook

/-- What a token promises to be and an operator accepts.  The constructors are
listed in increasing order. -/
inductive ValueKind where
  | numeric
  | string
  | boolean
deriving DecidableEq, Repr, Ord, Inhabited

namespace ValueKind

def name : ValueKind → String
  | .numeric => "numeric"
  | .string => "string"
  | .boolean => "boolean"

end ValueKind

/-- The value of a fact. -/
inductive Value where
  | int (number : Int64)
  | float (number : Float)
  | boolean (truth : Bool)
  | text (content : String)
  | null
deriving BEq, Repr, Inhabited

namespace Value

/-- The kind of a value, which null does not have. -/
def kind : Value → Option ValueKind
  | .int _ | .float _ => some .numeric
  | .boolean _ => some .boolean
  | .text _ => some .string
  | .null => none

/-- Whether a value is the explicit null. -/
def isNull : Value → Bool
  | .null => true
  | _ => false

/-- The number a value stands for, where an integer is rounded to the nearest
double. -/
def number? : Value → Option Float
  | .int number => some (Float.ofInt number.toInt)
  | .float number => some number
  | _ => none

def text? : Value → Option String
  | .text content => some content
  | _ => none

def boolean? : Value → Option Bool
  | .boolean truth => some truth
  | _ => none

/-- A value that may be absent, where absence becomes null. -/
def ofOption : Option Value → Value
  | some value => value
  | none => .null

/-- The display text of a value.  Texts stand in double quotes, and nothing in
them is escaped. -/
def render : Value → String
  | .int number => toString number.toInt
  | .float number => Decimal.plain number
  | .boolean truth => toString truth
  | .text content => "\"" ++ content ++ "\""
  | .null => "null"

end Value

end Rulebook
