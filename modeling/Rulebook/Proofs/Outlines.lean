import Rulebook.Proofs.EqualRules
import Rulebook.Proofs.Storing

/-!
# Outlines and leaves

Equality compares two trees in lock step.  What it compares falls into two parts:
the outline, which is everything that has to be the same, and the leaves, which
are compared one by one in the order in which they are written.  The leaves of a
decision are its numbers, and the leaves of a rule are its tests.

The laws of equality then follow from laws of lists that are related place by
place, whatever the nesting is.
-/

namespace Rulebook

/-! ## Lists that are related place by place -/

section Places

variable {α β : Type}

theorem forall₂_append_iff {R : α → α → Prop} {first second : List α}
    (lengths : first.length = second.length) {later others : List α} :
    List.Forall₂ R (first ++ later) (second ++ others) ↔
      List.Forall₂ R first second ∧ List.Forall₂ R later others := by
  induction first generalizing second with
  | nil =>
      rw [List.length_nil, eq_comm, List.length_eq_zero_iff] at lengths
      subst lengths
      simp
  | cons head first ih =>
      cases second with
      | nil => simp at lengths
      | cons other second =>
          rw [List.cons_append, List.cons_append, List.forall₂_cons,
            List.forall₂_cons, ih (Nat.succ.inj lengths), and_assoc]

/-- Two parts with the same outline and related leaves, one after the other.  The
outlines tell where the leaves of the first part end. -/
theorem outlines_append_iff {P Q : Prop} {R : α → α → Prop}
    {first second : List α} (lengths : P → first.length = second.length)
    {later others : List α} :
    (P ∧ List.Forall₂ R first second) ∧ Q ∧ List.Forall₂ R later others ↔
      (P ∧ Q) ∧ List.Forall₂ R (first ++ later) (second ++ others) := by
  constructor
  · rintro ⟨⟨here, leaves⟩, there, rest⟩
    exact ⟨⟨here, there⟩,
      (forall₂_append_iff (lengths here)).mpr ⟨leaves, rest⟩⟩
  · rintro ⟨⟨here, there⟩, all⟩
    obtain ⟨leaves, rest⟩ := (forall₂_append_iff (lengths here)).mp all
    exact ⟨⟨here, leaves⟩, there, rest⟩

theorem forall₂_length_flatMap {S : β → β → Prop} {leaves : β → List α}
    (lengths : ∀ part other, S part other →
      (leaves part).length = (leaves other).length)
    {parts others : List β} (each : List.Forall₂ S parts others) :
    (parts.flatMap leaves).length = (others.flatMap leaves).length := by
  induction each with
  | nil => rfl
  | cons first _ ih =>
      rw [List.flatMap_cons, List.flatMap_cons, List.length_append,
        List.length_append, lengths _ _ first, ih]

/-- A comparison that goes through two lists in lock step compares the outlines of
their members and all of their leaves. -/
theorem outlines_of_beqAll {S : β → β → Prop} {R : α → α → Prop}
    {leaves : β → List α} {beqAll : List β → List β → Bool}
    (nil : beqAll [] [] = true)
    (shorter : ∀ part parts, beqAll [] (part :: parts) = false)
    (longer : ∀ part parts, beqAll (part :: parts) [] = false)
    (step : ∀ part parts other others,
      beqAll (part :: parts) (other :: others) = true ↔
        (S part other ∧ List.Forall₂ R (leaves part) (leaves other)) ∧
          beqAll parts others = true)
    (lengths : ∀ part other, S part other →
      (leaves part).length = (leaves other).length)
    {parts others : List β} :
    beqAll parts others = true ↔
      List.Forall₂ S parts others ∧
        List.Forall₂ R (parts.flatMap leaves) (others.flatMap leaves) := by
  induction parts generalizing others with
  | nil => cases others <;> simp [nil, shorter]
  | cons part parts ih =>
      cases others with
      | nil => simp [longer]
      | cons other others =>
          rw [step, ih, List.forall₂_cons, List.flatMap_cons, List.flatMap_cons,
            outlines_append_iff (lengths part other)]

end Places

/-! ## Decisions -/

namespace Decision

mutual

/-- A decision with zero in place of every number. -/
def outline : Decision → Decision
  | .number _ => .number 0
  | .text value => .text value
  | .boolean value => .boolean value
  | .list items => .list (outlineItems items)
  | .map entries => .map (outlineEntries entries)

def outlineItems : List Decision → List Decision
  | [] => []
  | item :: items => item.outline :: outlineItems items

def outlineEntries {floor : Option String} : Entries floor → Entries floor
  | .nil => .nil
  | .cons name above item rest =>
      .cons name above item.outline (outlineEntries rest)

end

mutual

/-- An outline has as many numbers as the decision. -/
theorem length_numbers_outline : (decision : Decision) →
    decision.outline.numbers.length = decision.numbers.length
  | .number _ | .text _ | .boolean _ => by simp [outline, numbers]
  | .list items => by
      rw [outline, numbers, numbers]
      exact length_numbersOfItems_outline items
  | .map entries => by
      rw [outline, numbers, numbers]
      exact length_numbersOfEntries_outline entries

theorem length_numbersOfItems_outline : (items : List Decision) →
    (numbersOfItems (outlineItems items)).length = (numbersOfItems items).length
  | [] => by rw [outlineItems]
  | item :: items => by
      rw [outlineItems, numbersOfItems, numbersOfItems, List.length_append,
        List.length_append, item.length_numbers_outline,
        length_numbersOfItems_outline items]

theorem length_numbersOfEntries_outline {floor : Option String} :
    (entries : Entries floor) →
      (numbersOfEntries (outlineEntries entries)).length =
        (numbersOfEntries entries).length
  | .nil => by rw [outlineEntries]
  | .cons name above item rest => by
      rw [outlineEntries, numbersOfEntries, numbersOfEntries, List.length_append,
        List.length_append, item.length_numbers_outline,
        length_numbersOfEntries_outline rest]

end

theorem length_numbers_of_outline {first second : Decision}
    (same : first.outline = second.outline) :
    first.numbers.length = second.numbers.length := by
  rw [← first.length_numbers_outline, same, second.length_numbers_outline]

mutual

/-- Decisions are equal if they differ in their numbers only, and these are equal
one by one. -/
theorem beq_iff : (first second : Decision) →
    (first.beq second = true ↔ first.outline = second.outline ∧
      List.Forall₂ (fun number other => (number == other) = true)
        first.numbers second.numbers)
  | .number first, second => by
      cases second <;> simp [beq, outline, numbers]
  | .text first, second => by
      cases second <;> simp [beq, outline, numbers]
  | .boolean first, second => by
      cases second <;> simp [beq, outline, numbers]
  | .list firsts, second => by
      cases second with
      | list seconds =>
          rw [beq, outline, outline, numbers, numbers, list.injEq]
          exact beqItems_iff firsts seconds
      | _ => simp [beq, outline]
  | .map firsts, second => by
      cases second with
      | map seconds =>
          rw [beq, outline, outline, numbers, numbers, map.injEq]
          exact beqEntries_iff firsts seconds
      | _ => simp [beq, outline]

theorem beqItems_iff : (firsts seconds : List Decision) →
    (beqItems firsts seconds = true ↔ outlineItems firsts = outlineItems seconds ∧
      List.Forall₂ (fun number other => (number == other) = true)
        (numbersOfItems firsts) (numbersOfItems seconds))
  | [], [] => by simp [beqItems, numbersOfItems]
  | [], _ :: _ => by simp [beqItems, outlineItems]
  | _ :: _, [] => by simp [beqItems, outlineItems]
  | first :: firsts, second :: seconds => by
      rw [beqItems, Bool.and_eq_true, beq_iff first second,
        beqItems_iff firsts seconds, outlineItems, outlineItems, numbersOfItems,
        numbersOfItems, List.cons.injEq]
      exact outlines_append_iff length_numbers_of_outline

theorem beqEntries_iff {floor : Option String} :
    (firsts seconds : Entries floor) →
      (beqEntries firsts seconds = true ↔
        outlineEntries firsts = outlineEntries seconds ∧
          List.Forall₂ (fun number other => (number == other) = true)
            (numbersOfEntries firsts) (numbersOfEntries seconds))
  | .nil, .nil => by simp [beqEntries, numbersOfEntries]
  | .nil, .cons _ _ _ _ => by simp [beqEntries, outlineEntries]
  | .cons _ _ _ _, .nil => by simp [beqEntries, outlineEntries]
  | .cons name _ first firsts, .cons other _ second seconds => by
      rw [beqEntries, Bool.and_eq_true, Bool.and_eq_true, beq_iff_eq,
        outlineEntries, outlineEntries, numbersOfEntries, numbersOfEntries,
        Entries.cons.injEq]
      by_cases same : name = other
      · subst same
        rw [beq_iff first second, beqEntries_iff firsts seconds, heq_eq_eq,
          and_iff_right rfl, and_iff_right rfl]
        exact outlines_append_iff length_numbers_of_outline
      · simp [same]

end

end Decision

/-! ## Conditionals -/

/-- A test that stands for any other. -/
def Expression.blank : Expression :=
  .onFact "" (.boolean .isNone)

mutual

/-- A condition with the same test in place of every test. -/
def Condition.outline : Condition → Condition
  | .test _ => .test .blank
  | .nested conditional => .nested conditional.outline

def Conditional.outline : Conditional → Conditional
  | ⟨junction, conditions⟩ => ⟨junction, Condition.outlineAll conditions⟩

def Condition.outlineAll : List Condition → List Condition
  | [] => []
  | condition :: conditions =>
      condition.outline :: Condition.outlineAll conditions

end

mutual

/-- An outline has as many tests as the condition. -/
theorem Condition.length_leaves_outline : (condition : Condition) →
    condition.outline.leaves.length = condition.leaves.length
  | .test _ => by simp [Condition.outline, Condition.leaves]
  | .nested conditional => by
      rw [Condition.outline, Condition.leaves, Condition.leaves]
      exact Conditional.length_leaves_outline conditional

theorem Conditional.length_leaves_outline : (conditional : Conditional) →
    conditional.outline.leaves.length = conditional.leaves.length
  | ⟨junction, conditions⟩ => by
      rw [Conditional.outline, Conditional.leaves, Conditional.leaves]
      exact Condition.length_leavesAll_outline conditions

theorem Condition.length_leavesAll_outline : (conditions : List Condition) →
    (Condition.leavesAll (Condition.outlineAll conditions)).length =
      (Condition.leavesAll conditions).length
  | [] => by rw [Condition.outlineAll]
  | condition :: conditions => by
      rw [Condition.outlineAll, Condition.leavesAll, Condition.leavesAll,
        List.length_append, List.length_append,
        Condition.length_leaves_outline condition,
        Condition.length_leavesAll_outline conditions]

end

theorem Condition.length_leaves_of_outline {first second : Condition}
    (same : first.outline = second.outline) :
    first.leaves.length = second.leaves.length := by
  rw [← first.length_leaves_outline, same, second.length_leaves_outline]

theorem Conditional.length_leaves_of_outline {first second : Conditional}
    (same : first.outline = second.outline) :
    first.leaves.length = second.leaves.length := by
  rw [← first.length_leaves_outline, same, second.length_leaves_outline]

/-- Tests that are found equal one by one. -/
def Expression.BeqAll (leaves others : List Expression) : Prop :=
  List.Forall₂ (fun leaf other => leaf.beq other = true) leaves others

mutual

theorem Condition.beq_iff : (first second : Condition) →
    (first.beq second = true ↔ first.outline = second.outline ∧
      Expression.BeqAll first.leaves second.leaves)
  | .test first, .test second => by
      simp [Condition.beq, Condition.outline, Condition.leaves,
        Expression.BeqAll]
  | .test _, .nested _ => by simp [Condition.beq, Condition.outline]
  | .nested _, .test _ => by simp [Condition.beq, Condition.outline]
  | .nested first, .nested second => by
      rw [Condition.beq, Condition.outline, Condition.outline, Condition.leaves,
        Condition.leaves, Condition.nested.injEq]
      exact Conditional.beq_iff first second

/-- Conditionals are equal if they group equal tests in the same way. -/
theorem Conditional.beq_iff : (first second : Conditional) →
    (first.beq second = true ↔ first.outline = second.outline ∧
      Expression.BeqAll first.leaves second.leaves)
  | ⟨junction, firsts⟩, ⟨other, seconds⟩ => by
      rw [Conditional.beq, Bool.and_eq_true, beq_iff_eq, Conditional.outline,
        Conditional.outline, Conditional.leaves, Conditional.leaves,
        Conditional.mk.injEq, Condition.beqAll_iff firsts seconds, and_assoc]

theorem Condition.beqAll_iff : (firsts seconds : List Condition) →
    (Condition.beqAll firsts seconds = true ↔
      Condition.outlineAll firsts = Condition.outlineAll seconds ∧
        Expression.BeqAll (Condition.leavesAll firsts)
          (Condition.leavesAll seconds))
  | [], [] => by
      simp [Condition.beqAll, Condition.leavesAll, Expression.BeqAll]
  | [], _ :: _ => by simp [Condition.beqAll, Condition.outlineAll]
  | _ :: _, [] => by simp [Condition.beqAll, Condition.outlineAll]
  | first :: firsts, second :: seconds => by
      rw [Condition.beqAll, Bool.and_eq_true, Condition.beq_iff first second,
        Condition.beqAll_iff firsts seconds, Condition.outlineAll,
        Condition.outlineAll, Condition.leavesAll, Condition.leavesAll,
        List.cons.injEq]
      exact outlines_append_iff Condition.length_leaves_of_outline

end

/-! ## Rows, rulesets and rules -/

/-- Rows that group their tests in the same way and conclude equal decisions. -/
def DecisionRow.SameOutline (row other : DecisionRow) : Prop :=
  row.antecedent.outline = other.antecedent.outline ∧
    (row.consequent == other.consequent) = true

def ScoreRow.SameOutline (row other : ScoreRow) : Prop :=
  row.antecedent.outline = other.antecedent.outline ∧
    (row.score == other.score) = true

def ScoreSet.SameOutline (set other : ScoreSet) : Prop :=
  List.Forall₂ ScoreRow.SameOutline set.rows other.rows ∧
    (set.weight == other.weight) = true

/-- Rules of one sort with the same outline, whatever was recorded of their
tests. -/
inductive Rule.SameOutline : Rule → Rule → Prop
  | decision {set other : DecisionSet} (profile known : Profile) :
      List.Forall₂ DecisionRow.SameOutline set.rows other.rows →
        SameOutline (.decision ⟨set, profile⟩) (.decision ⟨other, known⟩)
  | score {sets others : List ScoreSet} (profile known : Profile) :
      List.Forall₂ ScoreSet.SameOutline sets others →
        SameOutline (.score ⟨sets, profile⟩) (.score ⟨others, known⟩)

theorem DecisionRow.beqAll_iff {rows others : List DecisionRow} :
    beqAll rows others = true ↔
      List.Forall₂ SameOutline rows others ∧
        Expression.BeqAll (rows.flatMap (·.antecedent.leaves))
          (others.flatMap (·.antecedent.leaves)) := by
  refine outlines_of_beqAll (by simp [beqAll]) (by simp [beqAll])
    (by simp [beqAll]) ?_ fun row other same =>
      Conditional.length_leaves_of_outline same.1
  rintro ⟨antecedent, consequent⟩ rows ⟨against, concluded⟩ others
  rw [beqAll, beq, Bool.and_eq_true, Bool.and_eq_true, Conditional.beq_iff,
    and_right_comm (a := antecedent.outline = _)]
  rfl

theorem ScoreRow.beqAll_iff {rows others : List ScoreRow} :
    beqAll rows others = true ↔
      List.Forall₂ SameOutline rows others ∧
        Expression.BeqAll (rows.flatMap (·.antecedent.leaves))
          (others.flatMap (·.antecedent.leaves)) := by
  refine outlines_of_beqAll (by simp [beqAll]) (by simp [beqAll])
    (by simp [beqAll]) ?_ fun row other same =>
      Conditional.length_leaves_of_outline same.1
  rintro ⟨antecedent, score⟩ rows ⟨against, scored⟩ others
  rw [beqAll, beq, Bool.and_eq_true, Bool.and_eq_true, Conditional.beq_iff,
    and_right_comm (a := antecedent.outline = _)]
  rfl

theorem ScoreSet.length_leaves_of_outline {set other : ScoreSet}
    (same : set.SameOutline other) : set.leaves.length = other.leaves.length :=
  forall₂_length_flatMap (fun _ _ alike =>
    Conditional.length_leaves_of_outline alike.1) same.1

theorem ScoreSet.beqAll_iff {sets others : List ScoreSet} :
    beqAll sets others = true ↔
      List.Forall₂ SameOutline sets others ∧
        Expression.BeqAll (sets.flatMap leaves) (others.flatMap leaves) := by
  refine outlines_of_beqAll (by simp [beqAll]) (by simp [beqAll])
    (by simp [beqAll]) ?_ fun set other same =>
      length_leaves_of_outline same
  rintro ⟨rows, weight⟩ sets ⟨against, weighed⟩ others
  rw [beqAll, beq, Bool.and_eq_true, Bool.and_eq_true, ScoreRow.beqAll_iff,
    and_right_comm (a := List.Forall₂ _ _ _)]
  rfl

theorem DecisionSet.beq_iff {set other : DecisionSet} :
    set.beq other = true ↔
      List.Forall₂ DecisionRow.SameOutline set.rows other.rows ∧
        Expression.BeqAll set.leaves other.leaves := by
  obtain ⟨rows⟩ := set
  obtain ⟨others⟩ := other
  rw [beq, DecisionRow.beqAll_iff]
  rfl

/-- Rules are equal if they have the same outline, equal tests one by one, and equal
profiles. -/
theorem Rule.beq_iff {first second : Rule} :
    first.beq second = true ↔
      first.SameOutline second ∧ Expression.BeqAll first.leaves second.leaves ∧
        (first.profile == second.profile) = true := by
  constructor
  · intro equal
    rcases beq_cases equal with
      ⟨set, other, profile, known, rfl, rfl, rows, recorded⟩ |
        ⟨sets, others, profile, known, rfl, rfl, rulesets, recorded⟩
    · obtain ⟨outline, leaves⟩ := DecisionSet.beq_iff.mp rows
      exact ⟨.decision profile known outline, leaves, recorded⟩
    · obtain ⟨outline, leaves⟩ := ScoreSet.beqAll_iff.mp rulesets
      exact ⟨.score profile known outline, leaves, recorded⟩
  · rintro ⟨outline, leaves, recorded⟩
    cases outline with
    | decision profile known outline =>
        rw [beq, DecisionRule.beq, DecisionSet.beq_iff.mpr ⟨outline, leaves⟩,
          Bool.true_and]
        exact recorded
    | score profile known outline =>
        rw [beq, ScoreRule.beq, ScoreSet.beqAll_iff.mpr ⟨outline, leaves⟩,
          Bool.true_and]
        exact recorded

end Rulebook
