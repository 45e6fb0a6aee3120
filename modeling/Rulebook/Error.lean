import Rulebook.Operator.Basic

/-!
# Errors

A `ConfigError` is a defect of a rule that its author can mend; it is found
while the rule is put together, so that a finished rule has none.  An
`EvalError` is a defect of the facts that are supplied to a finished rule.  Both
are causes, and `message` is their only wording.
-/

namespace Rulebook

/-- A defect found while a rule is put together. -/
inductive ConfigError where
  /-- An operator does not accept the kind of its token. -/
  | kindMismatch (token : String) (tokenKind operatorKind : ValueKind)
  /-- The floor of a range is not at or below its ceiling. -/
  | invalidBounds (floor ceiling : Float)
  /-- An operator compares against NaN. -/
  | nanBaseline (operator : Operator)
  /-- The score of a row is infinite or NaN. -/
  | nonFiniteScore (score : Float)
  /-- The weight of a ruleset is not between zero and one. -/
  | weightOutOfRange (weight : Float)
  /-- The weights of a score rule do not sum to one. -/
  | weightSum (sum : Float)
  /-- A score rule has no rulesets. -/
  | noRuleSets
  /-- A decision rule does not have exactly one ruleset. -/
  | decisionRuleSetCount (found : Nat)
  /-- One fact is asked for with two kinds. -/
  | conflictingTokenKind (name : String) (first second : ValueKind)
  /-- A rule token embeds a rule whose output has no single kind. -/
  | unembeddableRule (token : String)
  /-- A rule token would nest too many rules. -/
  | chainTooDeep (token : String) (depth most : Nat)

namespace ConfigError

def message : ConfigError → String
  | .kindMismatch token tokenKind operatorKind =>
      "token '" ++ token ++ "' is " ++ tokenKind.name ++
        " but the operator accepts " ++ operatorKind.name
  | .invalidBounds floor ceiling =>
      "invalid between bounds: floor " ++ Decimal.plain floor ++
        " must not exceed ceiling " ++ Decimal.plain ceiling
  | .nanBaseline operator =>
      "operator '" ++ operator.render ++ "' compares against NaN"
  | .nonFiniteScore score =>
      "score " ++ Decimal.plain score ++ " is not a finite number"
  | .weightOutOfRange weight =>
      "ruleset weight " ++ Decimal.plain weight ++ " is outside [0, 1]"
  | .weightSum sum =>
      "ruleset weights sum to " ++ Decimal.plain sum ++ ", expected 1"
  | .noRuleSets => "score rule requires at least one ruleset"
  | .decisionRuleSetCount found =>
      "decision rule requires exactly one ruleset, found " ++ toString found
  | .conflictingTokenKind name first second =>
      "fact '" ++ name ++ "' is declared both " ++ first.name ++ " and " ++
        second.name
  | .unembeddableRule token =>
      "rule token '" ++ token ++
        "' embeds a rule without a single comparable output kind"
  | .chainTooDeep token depth most =>
      "rule token '" ++ token ++ "' would nest rules " ++ toString depth ++
        " deep, maximum is " ++ toString most

end ConfigError

/-- A defect of the facts found while a rule is evaluated. -/
inductive EvalError where
  /-- A fact is present with a kind other than the one asked for. -/
  | typeMismatch (fact : String) (expected found : ValueKind)
deriving DecidableEq, Repr

namespace EvalError

def message : EvalError → String
  | .typeMismatch fact expected found =>
      "fact '" ++ fact ++ "' should be " ++ expected.name ++ " but is " ++
        found.name

end EvalError

end Rulebook
