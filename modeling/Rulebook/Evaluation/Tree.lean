import Rulebook.Evaluation.Walk
import Rulebook.Rule.Basic

/-!
# Walking a rule

Conditions are walked from left to right, and rows and rulesets from the first
to the last.  A conditional stops at the first condition that settles it, and a
ruleset at the first row that applies, so what comes later is never looked at
and cannot fail.

A token that embeds a rule object runs it unless the cache holds its output.
The output enters the cache only when the run has come to its end, and the events
of the run are logged between its start and its resolution.
-/

namespace Rulebook

/-- What a ruleset adds to the score of its rule: the score of the matched row
times the weight, or zero. -/
def ScoreSet.contribution (set : ScoreSet) : Option (Nat × ScoreRow) → Float
  | some (_, row) => row.score * set.weight
  | none => 0

mutual

def Token.walk (facts : Facts) : Token → Walk (Option Resolved)
  | .fact name kind => Walk.ofExcept (facts.resolve name kind)
  | .rule label object _ embedded => do
      match ← Walk.lookUp object with
      | some value =>
          Walk.log (.reused label object value)
          return value
      | none =>
          Walk.log (.started label object)
          let outcome ← embedded.walk facts
          Walk.log (.resolved label object outcome.resolved?)
          Walk.remember object outcome.resolved?
          return outcome.resolved?

def Expression.walk (facts : Facts) : Expression → Walk Bool
  | ⟨token, operator⟩ => do
      let value ← token.walk facts
      return operator.accepts value

def Condition.walk (facts : Facts) : Condition → Walk Bool
  | .test expression => expression.walk facts
  | .nested conditional => conditional.walk facts

def Conditional.walk (facts : Facts) : Conditional → Walk Bool
  | ⟨junction, conditions⟩ => Condition.walkAll facts junction conditions

/-- Evaluate conditions up to the first one that settles their conditional.  If
there is none, all of them have the other value. -/
def Condition.walkAll (facts : Facts) (junction : Junction) :
    List Condition → Walk Bool
  | [] => return !junction.decisive
  | condition :: conditions => do
      let value ← condition.walk facts
      if value = junction.decisive then
        return value
      else
        Condition.walkAll facts junction conditions

/-- Find the first row of a ruleset of decisions that applies, with its
place. -/
def DecisionSet.walk (facts : Facts) :
    DecisionSet → Walk (Option (Nat × DecisionRow))
  | ⟨rows⟩ => DecisionRow.walkAll facts 0 rows

/-- Find the first row that applies.  The places of the rows are counted from
the given one. -/
def DecisionRow.walkAll (facts : Facts) (place : Nat) :
    List DecisionRow → Walk (Option (Nat × DecisionRow))
  | [] => return none
  | ⟨antecedent, consequent⟩ :: rows => do
      if ← antecedent.walk facts then
        Walk.log (.decisionRowMatched place consequent)
        return some (place, ⟨antecedent, consequent⟩)
      else
        DecisionRow.walkAll facts (place + 1) rows

/-- Find the first row of a ruleset of scores that applies, with its place. -/
def ScoreSet.walk (facts : Facts) :
    ScoreSet → Walk (Option (Nat × ScoreRow))
  | ⟨rows, weight⟩ => ScoreRow.walkAll facts weight 0 rows

/-- Find the first row that applies in a ruleset of the given weight.  The
places of the rows are counted from the given one. -/
def ScoreRow.walkAll (facts : Facts) (weight : Float) (place : Nat) :
    List ScoreRow → Walk (Option (Nat × ScoreRow))
  | [] => return none
  | ⟨antecedent, score⟩ :: rows => do
      if ← antecedent.walk facts then
        Walk.log (.scoreRowMatched place score weight)
        return some (place, ⟨antecedent, score⟩)
      else
        ScoreRow.walkAll facts weight (place + 1) rows

/-- Add the contributions of rulesets to a total, from the first to the
last. -/
def ScoreSet.walkAll (facts : Facts) (total : Float) :
    List ScoreSet → Walk Float
  | [] => return total
  | set :: sets => do
      let matched ← set.walk facts
      ScoreSet.walkAll facts (total + set.contribution matched) sets

def DecisionRule.walk (facts : Facts) : DecisionRule → Walk (Option Decision)
  | ⟨ruleset, _⟩ => do
      let matched ← ruleset.walk facts
      let decision := matched.map fun found => found.2.consequent
      Walk.log (.decisionExecuted decision)
      return decision

def ScoreRule.walk (facts : Facts) : ScoreRule → Walk Float
  | ⟨rulesets, _⟩ => do
      let total ← ScoreSet.walkAll facts 0 rulesets
      Walk.log (.scoreExecuted total rulesets.length)
      return total

def Rule.walk (facts : Facts) : Rule → Walk Outcome
  | .decision rule => do
      let decision ← rule.walk facts
      return Outcome.ofDecision? decision
  | .score rule => do
      let total ← rule.walk facts
      return .score total

end

end Rulebook
