import Rulebook.Proofs.Contents

/-!
# Equality of what holds finite numbers

A value, a decision or an operator without NaN equals itself.  Two items that
are the same up to the numbers of rule objects are therefore equal if the
numbers that they hold are finite, however differently they share.
-/

namespace Rulebook

theorem number_beq_self {number : Float} (finite : number.isFinite = true) :
    (number == number) = true :=
  beq_self (isNaN_of_isFinite finite)

theorem allFinite_singleton {number : Float} :
    AllFinite [number] ↔ number.isFinite = true :=
  List.forall_mem_singleton

theorem Value.beq_self_of_finite (value : Value)
    (finite : AllFinite value.numbers) : (value == value) = true := by
  cases value with
  | int number => exact beq_self_eq_true number
  | float number =>
      exact number_beq_self (allFinite_singleton.mp finite)
  | boolean truth => exact beq_self_eq_true truth
  | text content => exact beq_self_eq_true content
  | null => rfl

theorem Facts.beq_self_of_finite (facts : Facts)
    (finite : AllFinite facts.numbers) : (facts == facts) = true := by
  have entries (entries : List (String × Value))
      (finite : AllFinite (entries.flatMap fun entry => entry.2.numbers)) :
      (entries == entries) = true := by
    induction entries with
    | nil => rfl
    | cons entry entries ih =>
        rw [List.flatMap_cons, allFinite_append] at finite
        rw [List.cons_beq_cons, ih finite.2, Bool.and_true]
        have same := entry.2.beq_self_of_finite finite.1
        change (entry.1 == entry.1 && entry.2 == entry.2) = true
        rw [same, beq_self_eq_true]
        rfl
  exact entries facts.entries finite

namespace Decision

mutual

theorem beq_self_of_finite : (decision : Decision) →
    AllFinite decision.numbers → decision.beq decision = true
  | .number value, finite => by
      rw [numbers] at finite
      rw [beq]
      exact number_beq_self (allFinite_singleton.mp finite)
  | .text value, _ => by
      rw [beq, beq_self_eq_true]
  | .boolean value, _ => by
      rw [beq, beq_self_eq_true]
  | .list items, finite => by
      rw [numbers] at finite
      rw [beq]
      exact beqItems_self_of_finite items finite
  | .map entries, finite => by
      rw [numbers] at finite
      rw [beq]
      exact beqEntries_self_of_finite entries finite

theorem beqItems_self_of_finite : (items : List Decision) →
    AllFinite (numbersOfItems items) → beqItems items items = true
  | [], _ => by
      rw [beqItems]
  | item :: items, finite => by
      rw [numbersOfItems, allFinite_append] at finite
      rw [beqItems, item.beq_self_of_finite finite.1,
        beqItems_self_of_finite items finite.2]
      rfl

theorem beqEntries_self_of_finite {floor : Option String} :
    (entries : Entries floor) →
      AllFinite (numbersOfEntries entries) → beqEntries entries entries = true
  | .nil, _ => by
      rw [beqEntries]
  | .cons name _ item rest, finite => by
      rw [numbersOfEntries, allFinite_append] at finite
      rw [beqEntries, beq_self_eq_true, item.beq_self_of_finite finite.1,
        beqEntries_self_of_finite rest finite.2]
      rfl

end

end Decision

theorem Operator.beq_self_of_finite (operator : Operator)
    (finite : AllFinite operator.numbers) : (operator == operator) = true := by
  have set (members : TextSet) : (members == members) = true :=
    beq_self_eq_true members.entries
  cases operator with
  | boolean test => exact beq_self_eq_true test
  | string test =>
      cases test with
      | isIn members => exact set members
      | notIn members => exact set members
      | contains part => exact beq_self_eq_true part
      | equals whole => exact beq_self_eq_true whole
      | isNone => rfl
  | numeric test =>
      cases test with
      | isNone => rfl
      | between floor ceiling =>
          have both := List.forall_mem_cons.mp finite
          change (floor == floor && ceiling == ceiling) = true
          rw [number_beq_self (allFinite_singleton.mp both.2),
            number_beq_self both.1]
          rfl
      | _ =>
          exact number_beq_self (allFinite_singleton.mp finite)

theorem Profile.beq_self (profile : Profile) : (profile == profile) = true := by
  change (profile.requirements.entries == profile.requirements.entries &&
    profile.depth == profile.depth) = true
  rw [beq_self_eq_true, beq_self_eq_true]
  rfl

mutual

theorem Token.beq_of_forget_eq : (first second : Token) →
    Finite first.contents → first.forget = second.forget →
      first.beq second = true
  | .fact name kind, .fact other otherKind, _, same => by
      rw [Token.forget_fact, Token.forget_fact] at same
      cases same
      rw [Token.beq, beq_self_eq_true, beq_self_eq_true]
      rfl
  | .fact name kind, .rule label object other embedded, _, same => by
      rw [Token.forget_fact, Token.forget_rule] at same
      cases same
  | .rule label object other embedded, .fact name kind, _, same => by
      rw [Token.forget_fact, Token.forget_rule] at same
      cases same
  | .rule label object kind first, .rule other number otherKind second,
      finite, same => by
      rw [Token.forget_rule, Token.forget_rule, Token.rule.injEq] at same
      rw [Token.contents] at finite
      rw [Token.beq, same.1, beq_self_eq_true,
        first.beq_of_forget_eq second finite same.2.2.2, Bool.or_true]
      rfl

theorem Expression.beq_of_forget_eq : (first second : Expression) →
    Finite first.contents → first.forget = second.forget →
      first.beq second = true
  | ⟨first, operator⟩, ⟨second, other⟩, finite, same => by
      rw [Expression.forget_mk, Expression.forget_mk, Expression.mk.injEq]
        at same
      rw [Expression.contents, finite_cons] at finite
      rw [Expression.beq, first.beq_of_forget_eq second finite.2 same.1,
        ← same.2, operator.beq_self_of_finite finite.1]
      rfl

theorem Condition.beq_of_forget_eq : (first second : Condition) →
    Finite first.contents → first.forget = second.forget →
      first.beq second = true
  | .test first, .test second, finite, same => by
      rw [Condition.forget_test, Condition.forget_test, Condition.test.injEq]
        at same
      rw [Condition.contents] at finite
      rw [Condition.beq, first.beq_of_forget_eq second finite same]
  | .nested first, .nested second, finite, same => by
      rw [Condition.forget_nested, Condition.forget_nested,
        Condition.nested.injEq] at same
      rw [Condition.contents] at finite
      rw [Condition.beq, first.beq_of_forget_eq second finite same]
  | .test first, .nested second, _, same => by
      rw [Condition.forget_test, Condition.forget_nested] at same
      cases same
  | .nested first, .test second, _, same => by
      rw [Condition.forget_test, Condition.forget_nested] at same
      cases same

theorem Conditional.beq_of_forget_eq : (first second : Conditional) →
    Finite first.contents → first.forget = second.forget →
      first.beq second = true
  | ⟨junction, firsts⟩, ⟨other, seconds⟩, finite, same => by
      rw [Conditional.forget_mk, Conditional.forget_mk, Conditional.mk.injEq]
        at same
      rw [Conditional.contents] at finite
      rw [Conditional.beq, same.1, beq_self_eq_true,
        Condition.beqAll_of_forget_eq firsts seconds finite same.2]
      rfl

theorem Condition.beqAll_of_forget_eq : (firsts seconds : List Condition) →
    Finite (Condition.contentsAll firsts) →
      firsts.map Condition.forget = seconds.map Condition.forget →
        Condition.beqAll firsts seconds = true
  | [], [], _, _ => by
      rw [Condition.beqAll]
  | [], _ :: _, _, same => nomatch same
  | _ :: _, [], _, same => nomatch same
  | first :: firsts, second :: seconds, finite, same => by
      rw [List.map_cons, List.map_cons, List.cons.injEq] at same
      rw [Condition.contentsAll, finite_append] at finite
      rw [Condition.beqAll, first.beq_of_forget_eq second finite.1 same.1,
        Condition.beqAll_of_forget_eq firsts seconds finite.2 same.2]
      rfl

theorem DecisionRow.beq_of_forget_eq : (first second : DecisionRow) →
    Finite first.contents → first.forget = second.forget →
      first.beq second = true
  | ⟨first, consequent⟩, ⟨second, other⟩, finite, same => by
      rw [DecisionRow.forget_mk, DecisionRow.forget_mk, DecisionRow.mk.injEq] at same
      rw [DecisionRow.contents, finite_append, finite_singleton] at finite
      have equal : (consequent == other) = true := by
        rw [← show consequent = other from same.2]
        exact consequent.beq_self_of_finite finite.2
      rw [DecisionRow.beq, first.beq_of_forget_eq second finite.1 same.1, equal]
      rfl

theorem DecisionRow.beqAll_of_forget_eq :
    (firsts seconds : List DecisionRow) →
      Finite (DecisionRow.contentsAll firsts) →
        firsts.map DecisionRow.forget = seconds.map DecisionRow.forget →
          DecisionRow.beqAll firsts seconds = true
  | [], [], _, _ => by
      rw [DecisionRow.beqAll]
  | [], _ :: _, _, same => nomatch same
  | _ :: _, [], _, same => nomatch same
  | first :: firsts, second :: seconds, finite, same => by
      rw [List.map_cons, List.map_cons, List.cons.injEq] at same
      rw [DecisionRow.contentsAll, finite_append] at finite
      rw [DecisionRow.beqAll, first.beq_of_forget_eq second finite.1 same.1,
        DecisionRow.beqAll_of_forget_eq firsts seconds finite.2 same.2]
      rfl

theorem ScoreRow.beq_of_forget_eq : (first second : ScoreRow) →
    Finite first.contents → first.forget = second.forget →
      first.beq second = true
  | ⟨first, score⟩, ⟨second, other⟩, finite, same => by
      rw [ScoreRow.forget_mk, ScoreRow.forget_mk, ScoreRow.mk.injEq] at same
      rw [ScoreRow.contents, finite_append, finite_singleton] at finite
      have equal : (score == other) = true := by
        rw [← show score = other from same.2]
        exact number_beq_self (allFinite_singleton.mp finite.2)
      rw [ScoreRow.beq, first.beq_of_forget_eq second finite.1 same.1, equal]
      rfl

theorem ScoreRow.beqAll_of_forget_eq : (firsts seconds : List ScoreRow) →
    Finite (ScoreRow.contentsAll firsts) →
      firsts.map ScoreRow.forget = seconds.map ScoreRow.forget →
        ScoreRow.beqAll firsts seconds = true
  | [], [], _, _ => by
      rw [ScoreRow.beqAll]
  | [], _ :: _, _, same => nomatch same
  | _ :: _, [], _, same => nomatch same
  | first :: firsts, second :: seconds, finite, same => by
      rw [List.map_cons, List.map_cons, List.cons.injEq] at same
      rw [ScoreRow.contentsAll, finite_append] at finite
      rw [ScoreRow.beqAll, first.beq_of_forget_eq second finite.1 same.1,
        ScoreRow.beqAll_of_forget_eq firsts seconds finite.2 same.2]
      rfl

theorem DecisionSet.beq_of_forget_eq : (first second : DecisionSet) →
    Finite first.contents → first.forget = second.forget →
      first.beq second = true
  | ⟨firsts⟩, ⟨seconds⟩, finite, same => by
      rw [DecisionSet.forget_mk, DecisionSet.forget_mk, DecisionSet.mk.injEq] at same
      rw [DecisionSet.contents] at finite
      rw [DecisionSet.beq,
        DecisionRow.beqAll_of_forget_eq firsts seconds finite same]

theorem ScoreSet.beq_of_forget_eq : (first second : ScoreSet) →
    Finite first.contents → first.forget = second.forget →
      first.beq second = true
  | ⟨firsts, weight⟩, ⟨seconds, other⟩, finite, same => by
      rw [ScoreSet.forget_mk, ScoreSet.forget_mk, ScoreSet.mk.injEq] at same
      rw [ScoreSet.contents, finite_append, finite_singleton] at finite
      have equal : (weight == other) = true := by
        rw [← show weight = other from same.2]
        exact number_beq_self (allFinite_singleton.mp finite.2)
      rw [ScoreSet.beq,
        ScoreRow.beqAll_of_forget_eq firsts seconds finite.1 same.1, equal]
      rfl

theorem ScoreSet.beqAll_of_forget_eq : (firsts seconds : List ScoreSet) →
    Finite (ScoreSet.contentsAll firsts) →
      firsts.map ScoreSet.forget = seconds.map ScoreSet.forget →
        ScoreSet.beqAll firsts seconds = true
  | [], [], _, _ => by
      rw [ScoreSet.beqAll]
  | [], _ :: _, _, same => nomatch same
  | _ :: _, [], _, same => nomatch same
  | first :: firsts, second :: seconds, finite, same => by
      rw [List.map_cons, List.map_cons, List.cons.injEq] at same
      rw [ScoreSet.contentsAll, finite_append] at finite
      rw [ScoreSet.beqAll, first.beq_of_forget_eq second finite.1 same.1,
        ScoreSet.beqAll_of_forget_eq firsts seconds finite.2 same.2]
      rfl

/-- Rules that differ in sharing only are equal if they hold finite numbers. -/
theorem Rule.beq_of_forget_eq : (first second : Rule) →
    Finite first.contents → first.forget = second.forget →
      first.beq second = true
  | .decision ⟨first, profile⟩, .decision ⟨second, other⟩, finite, same => by
      rw [Rule.forget_decision, Rule.forget_decision, Rule.decision.injEq,
        DecisionRule.forget, DecisionRule.forget, DecisionRule.mk.injEq]
        at same
      rw [Rule.contents] at finite
      rw [Rule.beq, DecisionRule.beq,
        first.beq_of_forget_eq second finite same.1,
        ← show profile = other from same.2, profile.beq_self]
      rfl
  | .score ⟨firsts, profile⟩, .score ⟨seconds, other⟩, finite, same => by
      rw [Rule.forget_score, Rule.forget_score, Rule.score.injEq,
        ScoreRule.forget, ScoreRule.forget, ScoreRule.mk.injEq] at same
      rw [Rule.contents] at finite
      rw [Rule.beq, ScoreRule.beq,
        ScoreSet.beqAll_of_forget_eq firsts seconds finite same.1,
        ← show profile = other from same.2, profile.beq_self]
      rfl
  | .decision first, .score second, _, same => by
      rw [Rule.forget_decision, Rule.forget_score] at same
      cases same
  | .score first, .decision second, _, same => by
      rw [Rule.forget_decision, Rule.forget_score] at same
      cases same

end

end Rulebook
