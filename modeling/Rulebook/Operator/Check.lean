import Rulebook.Error

/-!
# Checked operators

A range must not be empty and no baseline may be NaN, for such an operator
could never match.  An operator is free to break these rules until it enters a
rule: `Operator.validate` is asked there.  Only the range of a test of a fact is
looked at before, by `Operator.checkRange`.
-/

namespace Rulebook

namespace NumericTest

/-- The single baseline of a comparison. -/
def baseline? : NumericTest → Option Float
  | .lt baseline | .lte baseline | .gt baseline | .gte baseline
  | .eq baseline | .notEq baseline => some baseline
  | .between _ _ | .isNone => none

end NumericTest

namespace Operator

/-- Check the baselines of an operator. -/
def validate (operator : Operator) : Except ConfigError Unit :=
  match operator with
  | .numeric (.between floor ceiling) =>
      if floor ≤ ceiling then .ok () else .error (.invalidBounds floor ceiling)
  | .numeric test =>
      match test.baseline? with
      | some baseline =>
          if baseline.isNaN then .error (.nanBaseline operator) else .ok ()
      | none => .ok ()
  | _ => .ok ()

/-- Check the bounds of a range and nothing else. -/
def checkRange : Operator → Except ConfigError Unit
  | .numeric (.between floor ceiling) =>
      if floor ≤ ceiling then .ok () else .error (.invalidBounds floor ceiling)
  | _ => .ok ()

/-- The test for a number between two bounds, which are included. -/
def between (floor ceiling : Float) : Except ConfigError Operator := do
  let operator : Operator := .numeric (.between floor ceiling)
  operator.validate
  return operator

end Operator

end Rulebook
