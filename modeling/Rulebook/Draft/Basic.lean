import Rulebook.Rule.Basic

/-!
# Drafts

A draft describes a rule, or a part of one, as its author writes it down: which
constructors to use, in which order, and which earlier rules to refer to.  A
draft may be defective; building it finds out.

A draft refers to a rule that was defined earlier by its name.  A reference
stands for the very rule object, and a copy for a new object with the same rule.
-/

namespace Rulebook

inductive OperatorDraft where
  /-- The operator itself, of which nothing is checked. -/
  | plain (operator : Operator)
  /-- A range, whose bounds are checked at once. -/
  | between (floor ceiling : Float)

mutual

inductive TokenDraft where
  | fact (name : String) (kind : ValueKind)
  | rule (label : String) (rule : RuleDraft)

inductive ExpressionDraft where
  /-- A token with an operator that has to fit it. -/
  | pair (token : TokenDraft) (operator : OperatorDraft)
  /-- A fact of the kind that the operator accepts.  Of the operator only a range
  is checked. -/
  | onFact (name : String) (operator : OperatorDraft)

inductive ConditionDraft where
  | test (expression : ExpressionDraft)
  | nested (conditional : ConditionalDraft)

structure ConditionalDraft where
  junction : Junction
  conditions : List ConditionDraft

structure DecisionRowDraft where
  antecedent : ConditionalDraft
  consequent : Decision

structure ScoreRowDraft where
  antecedent : ConditionalDraft
  score : Float

structure DecisionSetDraft where
  rows : List DecisionRowDraft

/-- A ruleset of scores as it is written down.  If `deferred` holds, the scores
are not checked row by row but after all antecedents are built. -/
structure ScoreSetDraft where
  rows : List ScoreRowDraft
  weight : Float
  deferred : Bool

inductive RuleDraft where
  /-- The rule that decides by a ruleset. -/
  | decision (ruleset : DecisionSetDraft)
  /-- The rule that decides by the only ruleset of a list. -/
  | decisions (rulesets : List DecisionSetDraft)
  /-- The rule that sums up rulesets of scores. -/
  | score (rulesets : List ScoreSetDraft)
  /-- The rule object that was defined under a name. -/
  | reference (name : String)
  /-- A new rule object with the rule that was defined under a name. -/
  | copy (name : String)

end

end Rulebook
