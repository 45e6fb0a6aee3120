import Rulebook.Proofs.Transparency

/-!
# Which part decides

A conditional is decided by the first of its conditions that settles it, and a
ruleset by the first of its rows that applies.  A defect of the facts settles
either.  The parts before the deciding one are evaluated too, and those after it
play no part.

Here every part is evaluated on its own, from an empty cache.  It comes to the same
as inside the whole, because both come to what the part means.
-/

namespace Rulebook

/-- A result after which nothing else is looked at: the decisive truth value or a
defect of the facts. -/
def Settles (decisive : Bool) (result : Except EvalError Bool) : Prop :=
  result = .ok decisive ∨ ∃ defect, result = .error defect

/-- Of several parts that are evaluated on their own, the first that settles the
matter.  The given ones come before it. -/
def FirstToSettle {Part : Type} (decisive : Bool)
    (evaluate : Part → Except EvalError Bool) (before : List Part)
    (part : Part) : Prop :=
  (∀ earlier ∈ before, evaluate earlier = .ok (!decisive)) ∧
    Settles decisive (evaluate part)

/-- The value of a condition that is evaluated on its own. -/
def Condition.evaluate (condition : Condition) (facts : Facts) :
    Except EvalError Bool :=
  (condition.walk facts).result

section Parts

theorem Token.Coherent.mono {tokens more : List Token}
    (coherent : Token.Coherent more) (subset : tokens ⊆ more) :
    Token.Coherent tokens :=
  fun _ _ _ _ _ _ _ one other =>
    coherent _ _ _ _ _ _ _ (one.mono subset) (other.mono subset)

/-- The tokens of one of several parts are among the tokens of all of them. -/
theorem tokens_subset_flatMap {Part : Type} {parts : List Part}
    (leaves : Part → List Expression) {part : Part} (member : part ∈ parts) :
    (leaves part).map (·.token) ⊆ (parts.flatMap leaves).map (·.token) :=
  List.map_subset _ fun _ inside =>
    List.mem_flatMap.mpr ⟨part, member, inside⟩

end Parts

/-! ## Evaluating parts on their own -/

section Evaluating

variable {facts : Facts}

theorem eq_of_injective_map_eq {ε α β : Type} {wrap : α → β}
    (injective : Function.Injective wrap) {first second : Except ε α}
    (same : wrap <$> first = wrap <$> second) : first = second := by
  cases first with
  | error defect =>
      cases second with
      | error other => exact congrArg _ (Except.error.inj same)
      | ok value => cases same
  | ok value =>
      cases second with
      | error other => cases same
      | ok found => exact congrArg _ (injective (Except.ok.inj same))

theorem Expression.evaluate_eq_meaning {expression : Expression}
    (coherent : Token.Coherent [expression.token]) :
    expression.evaluate facts = expression.meaning facts :=
  eq_of_injective_map_eq (fun _ _ => Answer.truth.inj)
    (@Call.answer_eq_meaning (.test expression) facts coherent)

theorem Conditional.evaluate_eq_meaning {conditional : Conditional}
    (coherent : Token.Coherent (conditional.leaves.map (·.token))) :
    conditional.evaluate facts = conditional.meaning facts :=
  eq_of_injective_map_eq (fun _ _ => Answer.truth.inj)
    (@Call.answer_eq_meaning (.combine conditional) facts coherent)

theorem Condition.evaluate_eq_meaning {condition : Condition}
    (coherent : Token.Coherent (condition.leaves.map (·.token))) :
    condition.evaluate facts = condition.meaning facts := by
  cases condition with
  | test expression =>
      rw [Condition.leaves] at coherent
      rw [Condition.evaluate, Condition.walk, Condition.meaning]
      exact expression.evaluate_eq_meaning coherent
  | nested conditional =>
      rw [Condition.leaves] at coherent
      rw [Condition.evaluate, Condition.walk, Condition.meaning]
      exact conditional.evaluate_eq_meaning coherent

theorem DecisionSet.evaluate_eq_meaning {set : DecisionSet}
    (coherent : Token.Coherent (set.leaves.map (·.token))) :
    set.evaluate facts = set.meaning facts :=
  eq_of_injective_map_eq (fun _ _ => Answer.decision.inj)
    (@Call.answer_eq_meaning (.decide set) facts coherent)

theorem ScoreSet.evaluate_eq_meaning {set : ScoreSet}
    (coherent : Token.Coherent (set.leaves.map (·.token))) :
    set.evaluate facts = set.meaning facts :=
  eq_of_injective_map_eq (fun _ _ => Answer.contribution.inj)
    (@Call.answer_eq_meaning (.contribute set) facts coherent)

end Evaluating

/-! ## Up to the part that decides -/

section Deciding

variable {facts : Facts}

/-- What a computation that settles the matter comes to does not depend on how it
would go on. -/
theorem Settles.bind_ite {decisive : Bool} {result : Except EvalError Bool}
    {α : Type} (settles : Settles decisive result) (value : α)
    (rest : Except EvalError α) :
    (do if (← result) = decisive then return value else rest) =
      (fun _ => value) <$> result := by
  rcases settles with rfl | ⟨defect, rfl⟩
  · exact if_pos rfl
  · rfl

namespace Condition

variable {junction : Junction} {before later : List Condition}

/-- Conditions that settle nothing are passed over. -/
theorem meaningAll_append
    (earlier : ∀ condition ∈ before,
      condition.meaning facts = .ok (!junction.decisive)) :
    meaningAll facts junction (before ++ later) =
      meaningAll facts junction later := by
  induction before with
  | nil => rfl
  | cons condition before ih =>
      rw [List.forall_mem_cons] at earlier
      rw [List.cons_append, meaningAll, earlier.1]
      change (if (!junction.decisive) = junction.decisive then _ else _) = _
      rw [if_neg (by simp), ih earlier.2]

/-- The first condition that settles a conditional has the value of the
conditional. -/
theorem meaningAll_of_settles {condition : Condition}
    (earlier : ∀ condition ∈ before,
      condition.meaning facts = .ok (!junction.decisive))
    (settles : Settles junction.decisive (condition.meaning facts)) :
    meaningAll facts junction (before ++ condition :: later) =
      condition.meaning facts := by
  rw [meaningAll_append earlier, meaningAll]
  rcases settles with decides | ⟨defect, fails⟩
  · rw [decides]
    exact if_pos rfl
  · rw [fails]
    rfl

end Condition

namespace DecisionRow

variable {before later : List DecisionRow}

/-- Rows that do not apply are passed over. -/
theorem meaningAll_append
    (earlier : ∀ row ∈ before, row.antecedent.meaning facts = .ok false) :
    meaningAll facts (before ++ later) = meaningAll facts later := by
  induction before with
  | nil => rfl
  | cons row before ih =>
      obtain ⟨antecedent, consequent⟩ := row
      rw [List.forall_mem_cons] at earlier
      rw [List.cons_append, meaningAll, earlier.1]
      exact ih earlier.2

/-- The first row that applies concludes the decision. -/
theorem meaningAll_of_settles {row : DecisionRow}
    (earlier : ∀ row ∈ before, row.antecedent.meaning facts = .ok false)
    (settles : Settles true (row.antecedent.meaning facts)) :
    meaningAll facts (before ++ row :: later) =
      (fun _ => some row.consequent) <$> row.antecedent.meaning facts := by
  obtain ⟨antecedent, consequent⟩ := row
  rw [meaningAll_append earlier, meaningAll, settles.bind_ite]

end DecisionRow

namespace ScoreRow

variable {weight : Float} {before later : List ScoreRow}

/-- Rows that do not apply are passed over. -/
theorem meaningAll_append
    (earlier : ∀ row ∈ before, row.antecedent.meaning facts = .ok false) :
    meaningAll facts weight (before ++ later) =
      meaningAll facts weight later := by
  induction before with
  | nil => rfl
  | cons row before ih =>
      obtain ⟨antecedent, score⟩ := row
      rw [List.forall_mem_cons] at earlier
      rw [List.cons_append, meaningAll, earlier.1]
      exact ih earlier.2

/-- The first row that applies gives the score. -/
theorem meaningAll_of_settles {row : ScoreRow}
    (earlier : ∀ row ∈ before, row.antecedent.meaning facts = .ok false)
    (settles : Settles true (row.antecedent.meaning facts)) :
    meaningAll facts weight (before ++ row :: later) =
      (fun _ => row.score * weight) <$> row.antecedent.meaning facts := by
  obtain ⟨antecedent, score⟩ := row
  rw [meaningAll_append earlier, meaningAll, settles.bind_ite]

end ScoreRow

/-! What a whole comes to when its deciding part is evaluated on its own. -/

theorem FirstToSettle.congr {Part : Type} {decisive : Bool}
    {evaluate meaning : Part → Except EvalError Bool}
    {before later : List Part} {part : Part}
    (same : ∀ other ∈ before ++ part :: later, evaluate other = meaning other)
    (first : FirstToSettle decisive evaluate before part) :
    FirstToSettle decisive meaning before part := by
  rw [List.forall_mem_append, List.forall_mem_cons] at same
  refine ⟨fun earlier member => ?_, same.2.1 ▸ first.2⟩
  rw [← same.1 earlier member, first.1 earlier member]

theorem Conditional.evaluate_of_settles {junction : Junction}
    {before later : List Condition} {condition : Condition}
    (coherent : Token.Coherent
      ((mk junction (before ++ condition :: later)).leaves.map (·.token)))
    (first : FirstToSettle junction.decisive (·.evaluate facts) before
      condition) :
    evaluate ⟨junction, before ++ condition :: later⟩ facts =
      condition.evaluate facts := by
  have each (part : Condition) (member : part ∈ before ++ condition :: later) :
      part.evaluate facts = part.meaning facts := by
    rw [leaves, Condition.leavesAll_eq_flatMap] at coherent
    exact part.evaluate_eq_meaning
      (coherent.mono (tokens_subset_flatMap Condition.leaves member))
  obtain ⟨earlier, settles⟩ := first.congr each
  rw [evaluate_eq_meaning coherent, meaning,
    Condition.meaningAll_of_settles earlier settles, each condition (by simp)]

theorem DecisionSet.evaluate_of_settles {before later : List DecisionRow}
    {row : DecisionRow}
    (coherent : Token.Coherent
      ((mk (before ++ row :: later)).leaves.map (·.token)))
    (first : FirstToSettle true (·.applies facts) before row) :
    evaluate ⟨before ++ row :: later⟩ facts =
      (fun _ => some row.consequent) <$> row.applies facts := by
  have each (part : DecisionRow) (member : part ∈ before ++ row :: later) :
      part.applies facts = part.antecedent.meaning facts :=
    part.antecedent.evaluate_eq_meaning (coherent.mono
      (tokens_subset_flatMap (·.antecedent.leaves) member))
  obtain ⟨earlier, settles⟩ := first.congr each
  rw [evaluate_eq_meaning coherent, meaning,
    DecisionRow.meaningAll_of_settles earlier settles, each row (by simp)]

theorem ScoreSet.evaluate_of_settles {before later : List ScoreRow}
    {row : ScoreRow} {weight : Float}
    (coherent : Token.Coherent
      ((mk (before ++ row :: later) weight).leaves.map (·.token)))
    (first : FirstToSettle true (·.applies facts) before row) :
    evaluate ⟨before ++ row :: later, weight⟩ facts =
      (fun _ => row.score * weight) <$> row.applies facts := by
  have each (part : ScoreRow) (member : part ∈ before ++ row :: later) :
      part.applies facts = part.antecedent.meaning facts :=
    part.antecedent.evaluate_eq_meaning (coherent.mono
      (tokens_subset_flatMap (·.antecedent.leaves) member))
  obtain ⟨earlier, settles⟩ := first.congr each
  rw [evaluate_eq_meaning coherent, meaning,
    ScoreRow.meaningAll_of_settles earlier settles, each row (by simp)]

end Deciding

end Rulebook
