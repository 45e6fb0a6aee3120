import Rulebook.Evaluation.Report

/-!
# Evaluating against facts

Every part of a rule can be evaluated on its own.  Each evaluation starts from
an empty cache and forgets it at the end.
-/

namespace Rulebook

/-- What a token resolves to, which is nothing when the value is missing. -/
def Token.resolve (token : Token) (facts : Facts) :
    Except EvalError (Option Resolved) :=
  (token.walk facts).result

def Expression.evaluate (expression : Expression) (facts : Facts) :
    Except EvalError Bool :=
  (expression.walk facts).result

def Conditional.evaluate (conditional : Conditional) (facts : Facts) :
    Except EvalError Bool :=
  (conditional.walk facts).result

def DecisionRow.applies (row : DecisionRow) (facts : Facts) :
    Except EvalError Bool :=
  row.antecedent.evaluate facts

def ScoreRow.applies (row : ScoreRow) (facts : Facts) :
    Except EvalError Bool :=
  row.antecedent.evaluate facts

/-- The decision of the first row that applies. -/
def DecisionSet.evaluate (set : DecisionSet) (facts : Facts) :
    Except EvalError (Option Decision) := do
  let matched ← (set.walk facts).result
  return matched.map fun found => found.2.consequent

/-- The weighted score of the first row that applies, or zero. -/
def ScoreSet.evaluate (set : ScoreSet) (facts : Facts) :
    Except EvalError Float := do
  let matched ← (set.walk facts).result
  return set.contribution matched

def DecisionRule.execute (rule : DecisionRule) (facts : Facts) :
    Except EvalError (Option Decision) :=
  (rule.walk facts).result

def ScoreRule.execute (rule : ScoreRule) (facts : Facts) :
    Except EvalError Float :=
  (rule.walk facts).result

namespace Rule

def execute (rule : Rule) (facts : Facts) : Except EvalError Outcome :=
  (rule.walk facts).result

/-- The outcome of a rule together with how it came about. -/
def executeDetailed (rule : Rule) (facts : Facts) : Except EvalError Report :=
  (rule.walkDetailed facts).result

/-- The events that executing a rule logs, up to a defect of the facts if it
meets one. -/
def trace (rule : Rule) (facts : Facts) : List Event :=
  (rule.walk facts).start.events

/-- The events that executing a rule for a report logs. -/
def traceDetailed (rule : Rule) (facts : Facts) : List Event :=
  (rule.walkDetailed facts).start.events

end Rule

end Rulebook
