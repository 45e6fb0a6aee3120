import Rulebook.NameMap
import Rulebook.Resolved

/-!
# Operators

An operator is a test with its baselines filled in.  It accepts one kind of
value, and a missing value passes only the operator that asks for one.  A value
of another kind passes no operator at all, so that a test can fail for want of a
value but never by comparing things that do not compare.
-/

namespace Rulebook

inductive NumericTest where
  | lt (baseline : Float)
  | lte (baseline : Float)
  | gt (baseline : Float)
  | gte (baseline : Float)
  | eq (baseline : Float)
  | notEq (baseline : Float)
  | between (floor ceiling : Float)
  | isNone
deriving BEq, Inhabited

/-- The tests of texts, which are compared exactly. -/
inductive TextTest where
  | isIn (members : TextSet)
  | notIn (members : TextSet)
  | contains (part : String)
  | equals (whole : String)
  | isNone
deriving BEq, Inhabited

inductive BooleanTest where
  | is (expected : Bool)
  | isNone
deriving DecidableEq, Inhabited

/-- A test of a resolved value or of its absence. -/
inductive Operator where
  | numeric (test : NumericTest)
  | string (test : TextTest)
  | boolean (test : BooleanTest)
deriving BEq, Inhabited

/-- Whether one list of characters stands somewhere inside another. -/
def occursIn (part : List Char) : List Char → Bool
  | [] => part.isEmpty
  | character :: rest =>
      part.isPrefixOf (character :: rest) || occursIn part rest

namespace NumericTest

def accepts : NumericTest → Float → Bool
  | .lt baseline, number => number < baseline
  | .lte baseline, number => number ≤ baseline
  | .gt baseline, number => baseline < number
  | .gte baseline, number => baseline ≤ number
  | .eq baseline, number => number == baseline
  | .notEq baseline, number => number != baseline
  | .between floor ceiling, number => floor ≤ number && number ≤ ceiling
  | .isNone, _ => false

def render : NumericTest → String
  | .lt baseline => "< " ++ Decimal.plain baseline
  | .lte baseline => "<= " ++ Decimal.plain baseline
  | .gt baseline => "> " ++ Decimal.plain baseline
  | .gte baseline => ">= " ++ Decimal.plain baseline
  | .eq baseline => "== " ++ Decimal.plain baseline
  | .notEq baseline => "!= " ++ Decimal.plain baseline
  | .between floor ceiling =>
      "between " ++ Decimal.plain floor ++ " and " ++ Decimal.plain ceiling
  | .isNone => "is none"

end NumericTest

namespace TextTest

def accepts : TextTest → String → Bool
  | .isIn members, text => members.contains text
  | .notIn members, text => !members.contains text
  | .contains part, text => occursIn part.toList text.toList
  | .equals whole, text => text == whole
  | .isNone, _ => false

def renderMembers (members : TextSet) : String :=
  "[" ++ ", ".intercalate
    (members.toList.map fun member => "\"" ++ member ++ "\"") ++ "]"

def render : TextTest → String
  | .isIn members => "in " ++ renderMembers members
  | .notIn members => "not in " ++ renderMembers members
  | .contains part => "contains \"" ++ part ++ "\""
  | .equals whole => "== \"" ++ whole ++ "\""
  | .isNone => "is none"

end TextTest

namespace BooleanTest

def accepts : BooleanTest → Bool → Bool
  | .is expected, truth => expected == truth
  | .isNone, _ => false

def render : BooleanTest → String
  | .is expected => "is " ++ toString expected
  | .isNone => "is none"

end BooleanTest

namespace Operator

/-- Membership in the set of a list of texts. -/
def isIn (members : List String) : Operator :=
  .string (.isIn (TextSet.ofList members))

/-- Absence from the set of a list of texts. -/
def notIn (members : List String) : Operator :=
  .string (.notIn (TextSet.ofList members))

/-- The test for a missing value among those that accept the given kind. -/
def isNone : ValueKind → Operator
  | .numeric => .numeric .isNone
  | .string => .string .isNone
  | .boolean => .boolean .isNone

/-- The kind of value an operator accepts. -/
def kind : Operator → ValueKind
  | .numeric _ => .numeric
  | .string _ => .string
  | .boolean _ => .boolean

/-- Whether an operator asks for a missing value. -/
def wantsNone : Operator → Bool
  | .numeric .isNone | .string .isNone | .boolean .isNone => true
  | _ => false

/-- Whether a value, or its absence, passes. -/
def accepts (operator : Operator) : Option Resolved → Bool
  | none => operator.wantsNone
  | some value =>
      match operator, value with
      | .numeric test, .number number => test.accepts number
      | .string test, .text text => test.accepts text
      | .boolean test, .boolean truth => test.accepts truth
      | _, _ => false

def render : Operator → String
  | .numeric test => test.render
  | .string test => test.render
  | .boolean test => test.render

end Operator

end Rulebook
