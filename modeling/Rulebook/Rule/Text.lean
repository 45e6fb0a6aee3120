import Rulebook.Rule.Basic

/-!
# Display texts of rules

Tests and conditionals are shown in full, rows as one sentence, and rulesets
and rules by their counts.  An embedded rule is shown by its label alone, so the
length of a text does not grow with the rules that a token embeds.
-/

namespace Rulebook

def Token.render : Token → String
  | .fact name _ => name
  | .rule label _ _ _ => "rule(" ++ label ++ ")"

def Expression.render (expression : Expression) : String :=
  "(" ++ expression.token.render ++ " " ++ expression.operator.render ++ ")"

namespace Junction

/-- The word that stands between the conditions of a conditional. -/
def word : Junction → String
  | .all => " AND "
  | .any => " OR "

def render (junction : Junction) (conditions : List String) : String :=
  if conditions.isEmpty then
    toString (!junction.decisive)
  else
    "(" ++ junction.word.intercalate conditions ++ ")"

end Junction

mutual

def Condition.render : Condition → String
  | .test expression => expression.render
  | .nested conditional => conditional.render

def Conditional.render : Conditional → String
  | ⟨junction, conditions⟩ => junction.render (Condition.renderAll conditions)

def Condition.renderAll : List Condition → List String
  | [] => []
  | condition :: conditions =>
      condition.render :: Condition.renderAll conditions

end

def DecisionRow.render (row : DecisionRow) : String :=
  "when " ++ row.antecedent.render ++ " then " ++ row.consequent.render

def ScoreRow.render (row : ScoreRow) : String :=
  "when " ++ row.antecedent.render ++ " score " ++ Decimal.plain row.score

def DecisionSet.render (set : DecisionSet) : String :=
  "RuleSetDecision(" ++ toString set.rows.length ++ " rows)"

def ScoreSet.render (set : ScoreSet) : String :=
  "RuleSetScore(" ++ toString set.rows.length ++ " rows, weight " ++
    Decimal.plain set.weight ++ ")"

namespace Rule

def renderSets : Rule → List String
  | .decision rule => [rule.ruleset.render]
  | .score rule => rule.rulesets.map ScoreSet.render

def render : Rule → String
  | .decision rule =>
      "RuleDecision(" ++ toString rule.ruleset.rows.length ++ " rows, " ++
        toString rule.profile.requirements.size ++ " facts)"
  | .score rule =>
      "RuleScore(" ++ toString rule.rulesets.length ++ " rulesets, " ++
        toString rule.profile.requirements.size ++ " facts)"

end Rule

end Rulebook
