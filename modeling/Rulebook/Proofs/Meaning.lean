import Rulebook.Proofs.Interpretation

/-!
# What a rule means

The meaning of a rule on given facts is found without a cache: every token that
embeds a rule finds out the meaning of that rule anew.  Nothing is logged, and
the places of rows play no part.  Neither the labels of rule tokens nor the
numbers of rule objects occur in it, so renaming them changes no meaning.

`Interpreter.plain` is the same evaluator as an interpretation, which makes it
comparable with walks.
-/

namespace Rulebook

mutual

/-- What a token resolves to. -/
def Token.meaning (facts : Facts) :
    Token → Except EvalError (Option Resolved)
  | .fact name kind => facts.resolve name kind
  | .rule _ _ _ embedded => do
      let outcome ← embedded.meaning facts
      return outcome.resolved?

def Expression.meaning (facts : Facts) : Expression → Except EvalError Bool
  | ⟨token, operator⟩ => do
      let value ← token.meaning facts
      return operator.accepts value

def Condition.meaning (facts : Facts) : Condition → Except EvalError Bool
  | .test expression => expression.meaning facts
  | .nested conditional => conditional.meaning facts

def Conditional.meaning (facts : Facts) : Conditional → Except EvalError Bool
  | ⟨junction, conditions⟩ => Condition.meaningAll facts junction conditions

/-- The value of the first condition that settles its conditional, or the other
value if there is none. -/
def Condition.meaningAll (facts : Facts) (junction : Junction) :
    List Condition → Except EvalError Bool
  | [] => return !junction.decisive
  | condition :: conditions => do
      let value ← condition.meaning facts
      if value = junction.decisive then
        return value
      else
        Condition.meaningAll facts junction conditions

def DecisionRow.meaningAll (facts : Facts) :
    List DecisionRow → Except EvalError (Option Decision)
  | [] => return none
  | ⟨antecedent, consequent⟩ :: rows => do
      if ← antecedent.meaning facts then
        return some consequent
      else
        DecisionRow.meaningAll facts rows

/-- The weighted score of the first row that applies, or zero. -/
def ScoreRow.meaningAll (facts : Facts) (weight : Float) :
    List ScoreRow → Except EvalError Float
  | [] => return 0
  | ⟨antecedent, score⟩ :: rows => do
      if ← antecedent.meaning facts then
        return score * weight
      else
        ScoreRow.meaningAll facts weight rows

/-- A total with the contributions of rulesets added, from the first to the
last. -/
def ScoreSet.meaningAll (facts : Facts) (total : Float) :
    List ScoreSet → Except EvalError Float
  | [] => return total
  | ⟨rows, weight⟩ :: sets => do
      let contribution ← ScoreRow.meaningAll facts weight rows
      ScoreSet.meaningAll facts (total + contribution) sets

def Rule.meaning (facts : Facts) : Rule → Except EvalError Outcome
  | .decision ⟨⟨rows⟩, _⟩ => do
      let decision ← DecisionRow.meaningAll facts rows
      return .ofDecision? decision
  | .score ⟨rulesets, _⟩ => do
      let total ← ScoreSet.meaningAll facts 0 rulesets
      return .score total

end

def DecisionSet.meaning (facts : Facts) (set : DecisionSet) :
    Except EvalError (Option Decision) :=
  DecisionRow.meaningAll facts set.rows

def ScoreSet.meaning (facts : Facts) (set : ScoreSet) :
    Except EvalError Float :=
  ScoreRow.meaningAll facts set.weight set.rows

section Plain

variable (facts : Facts)

/-- The evaluator without a cache, as an interpreter. -/
def Interpreter.plain : Interpreter (Except EvalError) :=
  ⟨Token.meaning facts, fun _ => .ok ()⟩

theorem Expression.meaning_eq_interpret :
    (expression : Expression) →
      expression.meaning facts = expression.interpret (.plain facts)
  | ⟨token, operator⟩ => by
      rw [Expression.meaning]
      rfl

mutual

theorem Condition.meaning_eq_interpret :
    (condition : Condition) →
      condition.meaning facts = condition.interpret (.plain facts)
  | .test expression => by
      rw [Condition.meaning, Condition.interpret,
        expression.meaning_eq_interpret]
  | .nested conditional => by
      rw [Condition.meaning, Condition.interpret,
        conditional.meaning_eq_interpret]

theorem Conditional.meaning_eq_interpret :
    (conditional : Conditional) →
      conditional.meaning facts = conditional.interpret (.plain facts)
  | ⟨junction, conditions⟩ => by
      rw [Conditional.meaning, Conditional.interpret,
        Condition.meaningAll_eq_interpretAll junction conditions]

theorem Condition.meaningAll_eq_interpretAll (junction : Junction) :
    (conditions : List Condition) →
      Condition.meaningAll facts junction conditions =
        Condition.interpretAll (.plain facts) junction conditions
  | [] => by
      rw [Condition.meaningAll, Condition.interpretAll]
  | condition :: conditions => by
      rw [Condition.meaningAll, Condition.interpretAll,
        condition.meaning_eq_interpret,
        Condition.meaningAll_eq_interpretAll junction conditions]

end

theorem DecisionRow.meaningAll_eq_interpretAll (place : Nat)
    (rows : List DecisionRow) :
    DecisionRow.meaningAll facts rows =
      Option.map (fun found => found.2.consequent) <$>
        DecisionRow.interpretAll (.plain facts) place rows := by
  induction rows generalizing place with
  | nil => rw [DecisionRow.meaningAll, DecisionRow.interpretAll]; rfl
  | cons row rows ih =>
      obtain ⟨antecedent, consequent⟩ := row
      rw [DecisionRow.meaningAll, DecisionRow.interpretAll,
        antecedent.meaning_eq_interpret, ih (place + 1)]
      cases antecedent.interpret (.plain facts) with
      | error defect => rfl
      | ok applies => cases applies <;> rfl

theorem DecisionSet.meaning_eq_interpret (set : DecisionSet) :
    set.meaning facts =
      Option.map (fun found => found.2.consequent) <$>
        set.interpret (.plain facts) :=
  DecisionRow.meaningAll_eq_interpretAll facts 0 set.rows

theorem ScoreRow.meaningAll_eq_interpretAll (set : ScoreSet) (place : Nat)
    (rows : List ScoreRow) :
    ScoreRow.meaningAll facts set.weight rows =
      set.contribution <$>
        ScoreRow.interpretAll (.plain facts) set.weight place rows := by
  induction rows generalizing place with
  | nil => rw [ScoreRow.meaningAll, ScoreRow.interpretAll]; rfl
  | cons row rows ih =>
      obtain ⟨antecedent, score⟩ := row
      rw [ScoreRow.meaningAll, ScoreRow.interpretAll,
        antecedent.meaning_eq_interpret, ih (place + 1)]
      cases antecedent.interpret (.plain facts) with
      | error defect => rfl
      | ok applies => cases applies <;> rfl

theorem ScoreSet.meaning_eq_interpret (set : ScoreSet) :
    set.meaning facts = set.contribution <$> set.interpret (.plain facts) :=
  ScoreRow.meaningAll_eq_interpretAll facts set 0 set.rows

theorem ScoreSet.meaningAll_eq_interpretAll (total : Float)
    (sets : List ScoreSet) :
    ScoreSet.meaningAll facts total sets =
      ScoreSet.interpretAll (.plain facts) total sets := by
  induction sets generalizing total with
  | nil => rw [ScoreSet.meaningAll, ScoreSet.interpretAll]
  | cons set sets ih =>
      have first := set.meaning_eq_interpret facts
      rw [ScoreSet.meaning] at first
      obtain ⟨rows, weight⟩ := set
      rw [ScoreSet.meaningAll, ScoreSet.interpretAll, first]
      simp only [bind_map_left, ih]

theorem Rule.meaning_eq_interpret :
    (rule : Rule) → rule.meaning facts = rule.interpret (.plain facts)
  | .decision ⟨⟨rows⟩, _⟩ => by
      rw [Rule.meaning, Rule.interpret, DecisionRule.interpret,
        DecisionSet.interpret,
        DecisionRow.meaningAll_eq_interpretAll facts 0 rows]
      simp only [bind_map_left, bind_assoc]
      rfl
  | .score ⟨rulesets, _⟩ => by
      rw [Rule.meaning, Rule.interpret, ScoreRule.interpret,
        ScoreSet.meaningAll_eq_interpretAll]
      simp only [bind_assoc]
      rfl

end Plain

end Rulebook
