import Rulebook.Rule.Basic

/-!
# Equality of rules

Two rules are equal when their rulesets are, place by place, and when the same
was recorded of their tokens.  The numbers of rule objects do not count as
content: two tokens with one label are equal if they embed the same object, and
otherwise if the embedded rules are equal.  The first case is more than a short
cut, because a rule that holds NaN as a consequent differs from itself.
-/

namespace Rulebook

mutual

/-- Equality of tokens. -/
def Token.beq : Token → Token → Bool
  | .fact firstName firstKind, .fact secondName secondKind =>
      firstName == secondName && firstKind == secondKind
  | .rule firstLabel firstObject _ first, .rule secondLabel secondObject _ second =>
      firstLabel == secondLabel &&
        (firstObject == secondObject || first.beq second)
  | _, _ => false

def Expression.beq : Expression → Expression → Bool
  | ⟨firstToken, firstOperator⟩, ⟨secondToken, secondOperator⟩ =>
      firstToken.beq secondToken && firstOperator == secondOperator

def Condition.beq : Condition → Condition → Bool
  | .test first, .test second => first.beq second
  | .nested first, .nested second => first.beq second
  | _, _ => false

def Conditional.beq : Conditional → Conditional → Bool
  | ⟨firstJunction, firsts⟩, ⟨secondJunction, seconds⟩ =>
      firstJunction == secondJunction && Condition.beqAll firsts seconds

def Condition.beqAll : List Condition → List Condition → Bool
  | [], [] => true
  | first :: firsts, second :: seconds =>
      first.beq second && Condition.beqAll firsts seconds
  | _, _ => false

def DecisionRow.beq : DecisionRow → DecisionRow → Bool
  | ⟨firstAntecedent, firstConsequent⟩, ⟨secondAntecedent, secondConsequent⟩ =>
      firstAntecedent.beq secondAntecedent && firstConsequent == secondConsequent

def DecisionRow.beqAll : List DecisionRow → List DecisionRow → Bool
  | [], [] => true
  | first :: firsts, second :: seconds =>
      first.beq second && DecisionRow.beqAll firsts seconds
  | _, _ => false

def ScoreRow.beq : ScoreRow → ScoreRow → Bool
  | ⟨firstAntecedent, firstScore⟩, ⟨secondAntecedent, secondScore⟩ =>
      firstAntecedent.beq secondAntecedent && firstScore == secondScore

def ScoreRow.beqAll : List ScoreRow → List ScoreRow → Bool
  | [], [] => true
  | first :: firsts, second :: seconds =>
      first.beq second && ScoreRow.beqAll firsts seconds
  | _, _ => false

def DecisionSet.beq : DecisionSet → DecisionSet → Bool
  | ⟨firsts⟩, ⟨seconds⟩ => DecisionRow.beqAll firsts seconds

def ScoreSet.beq : ScoreSet → ScoreSet → Bool
  | ⟨firsts, firstWeight⟩, ⟨seconds, secondWeight⟩ =>
      ScoreRow.beqAll firsts seconds && firstWeight == secondWeight

def ScoreSet.beqAll : List ScoreSet → List ScoreSet → Bool
  | [], [] => true
  | first :: firsts, second :: seconds =>
      first.beq second && ScoreSet.beqAll firsts seconds
  | _, _ => false

def DecisionRule.beq : DecisionRule → DecisionRule → Bool
  | ⟨firstSet, firstProfile⟩, ⟨secondSet, secondProfile⟩ =>
      firstSet.beq secondSet && firstProfile == secondProfile

def ScoreRule.beq : ScoreRule → ScoreRule → Bool
  | ⟨firstSets, firstProfile⟩, ⟨secondSets, secondProfile⟩ =>
      ScoreSet.beqAll firstSets secondSets && firstProfile == secondProfile

def Rule.beq : Rule → Rule → Bool
  | .decision first, .decision second => first.beq second
  | .score first, .score second => first.beq second
  | _, _ => false

end

instance : BEq Token := ⟨Token.beq⟩

instance : BEq Expression := ⟨Expression.beq⟩

instance : BEq Conditional := ⟨Conditional.beq⟩

instance : BEq DecisionRow := ⟨DecisionRow.beq⟩

instance : BEq ScoreRow := ⟨ScoreRow.beq⟩

instance : BEq DecisionSet := ⟨DecisionSet.beq⟩

instance : BEq ScoreSet := ⟨ScoreSet.beq⟩

instance : BEq Rule := ⟨Rule.beq⟩

end Rulebook
