import Mathlib.Data.List.Forall2
import Rulebook.Proofs.Meaning
import Rulebook.Proofs.Products
import Rulebook.Proofs.Relevance
import Rulebook.Rule.Equality

/-!
# Equal parts are read alike

Equality of the parts of a rule compares numbers as numbers, so equal parts may
differ in the signs of their zeros.  No operator tells equal numbers apart, and
therefore conditionals with equal tests, rows and rulesets are read alike as long
as their tests are: the same rows are found, and equal weighted scores have
equal sums.

`Coincide` is the relation between the two results.  Both evaluations fail with the
same defect, or they come to related values.  Everything is stated of the
evaluator without a cache.
-/

namespace Rulebook

/-! ## Values and operators -/

namespace NumericTest

/-- Equal tests accept the same numbers. -/
theorem accepts_of_beq {test other : NumericTest} (equal : test == other)
    (number : Float) : test.accepts number = other.accepts number := by
  cases test <;> cases other <;> try exact absurd equal Bool.false_ne_true
  case isNone.isNone => rfl
  case between.between =>
      change (_ && _) = true at equal
      rw [Bool.and_eq_true] at equal
      simp only [accepts, le_iff_compare, (compare_congr equal.1 number).1,
        (compare_congr equal.2 number).2]
  all_goals
    have alike := compare_congr equal number
    simp only [accepts, bne, lt_iff_compare, le_iff_compare, beq_eq_compare,
      alike]

end NumericTest

/-- Maps that are equal entry by entry are the same. -/
theorem NameMap.eq_of_beq {α : Type} [BEq α] [LawfulBEq α]
    {first second : NameMap α} (equal : first == second) : first = second := by
  obtain ⟨entries, increasing⟩ := first
  obtain ⟨others, also⟩ := second
  have same : entries = others := LawfulBEq.eq_of_beq equal
  subst same
  rfl

/-- Equal tests of texts are the same. -/
theorem TextTest.eq_of_beq {test other : TextTest} (equal : test == other) :
    test = other := by
  cases test <;> cases other <;> try exact absurd equal Bool.false_ne_true
  case isNone.isNone => rfl
  case isIn.isIn => rw [NameMap.eq_of_beq equal]
  case notIn.notIn => rw [NameMap.eq_of_beq equal]
  case contains.contains part otherPart =>
      have same : part = otherPart := LawfulBEq.eq_of_beq equal
      rw [same]
  case equals.equals whole otherWhole =>
      have same : whole = otherWhole := LawfulBEq.eq_of_beq equal
      rw [same]

/-- Values that no operator tells apart: the same one, or equal numbers. -/
inductive Resolved.Alike : Option Resolved → Option Resolved → Prop
  | same (value : Option Resolved) : Alike value value
  | number {first second : Float} :
      first == second →
        Alike (some (.number first)) (some (.number second))

/-- Equal operators accept the same values. -/
theorem Operator.accepts_of_beq {operator other : Operator}
    (equal : operator == other) (value : Option Resolved) :
    operator.accepts value = other.accepts value := by
  cases operator <;> cases other <;> try exact absurd equal Bool.false_ne_true
  case numeric.numeric test against =>
      cases value with
      | none =>
          cases test <;> cases against <;>
            first | rfl | exact absurd equal Bool.false_ne_true
      | some resolved =>
          cases resolved with
          | number number => exact NumericTest.accepts_of_beq equal number
          | text | boolean => rfl
  case string.string => rw [TextTest.eq_of_beq equal]
  case boolean.boolean test against =>
      have same : test = against := LawfulBEq.eq_of_beq equal
      rw [same]

theorem Operator.accepts_alike {operator other : Operator}
    (equal : operator == other) {value found : Option Resolved}
    (alike : Resolved.Alike value found) :
    operator.accepts value = other.accepts found := by
  rw [accepts_of_beq equal]
  cases alike with
  | same => rfl
  | number same => exact accepts_number_congr (.inr same) other

/-! ## Results -/

/-- Two evaluations that fail with the same defect or come to related values. -/
inductive Coincide {ε α β : Type} (R : α → β → Prop) :
    Except ε α → Except ε β → Prop
  | ok {value : α} {other : β} : R value other → Coincide R (.ok value) (.ok other)
  | error (defect : ε) : Coincide R (.error defect) (.error defect)

namespace Coincide

variable {ε α β γ δ : Type} {R : α → β → Prop} {S : γ → δ → Prop}

theorem bind {first : Except ε α} {second : Except ε β} {next : α → Except ε γ}
    {otherNext : β → Except ε δ} (coincide : Coincide R first second)
    (after : ∀ value other, R value other →
      Coincide S (next value) (otherNext other)) :
    Coincide S (first >>= next) (second >>= otherNext) := by
  cases coincide with
  | ok related => exact after _ _ related
  | error defect => exact .error defect

theorem map {first : Except ε α} {second : Except ε β} {one : α → γ}
    {other : β → δ} (coincide : Coincide R first second)
    (keeps : ∀ value found, R value found → S (one value) (other found)) :
    Coincide S (one <$> first) (other <$> second) := by
  cases coincide with
  | ok related => exact .ok (keeps _ _ related)
  | error defect => exact .error defect

theorem mono {T : α → β → Prop} {first : Except ε α} {second : Except ε β}
    (coincide : Coincide R first second)
    (weaker : ∀ value other, R value other → T value other) :
    Coincide T first second := by
  cases coincide with
  | ok related => exact .ok (weaker _ _ related)
  | error defect => exact .error defect

theorem of_eq {R : α → α → Prop} (reflexive : ∀ value, R value value)
    {first second : Except ε α} (same : first = second) :
    Coincide R first second := by
  subst same
  cases first with
  | error defect => exact .error defect
  | ok value => exact .ok (reflexive value)

end Coincide

/-! ## Parts that are equal place by place -/

/-- Lists that a comparison place by place finds equal. -/
theorem forall₂_of_beqAll {α : Type} {R : α → α → Prop}
    {beqAll : List α → List α → Bool}
    (shorter : ∀ item items, beqAll [] (item :: items) = false)
    (longer : ∀ item items, beqAll (item :: items) [] = false)
    (step : ∀ item items other others,
      beqAll (item :: items) (other :: others) = true →
        R item other ∧ beqAll items others = true) :
    ∀ {items others : List α}, beqAll items others = true →
      List.Forall₂ R items others
  | [], [], _ => .nil
  | [], other :: others, equal => by
      rw [shorter] at equal
      cases equal
  | item :: items, [], equal => by
      rw [longer] at equal
      cases equal
  | item :: items, other :: others, equal =>
      .cons (step _ _ _ _ equal).1
        (forall₂_of_beqAll shorter longer step (step _ _ _ _ equal).2)

/-- What stands at one place of two lists are members of them. -/
theorem forall₂_mem {α : Type} {R : α → α → Prop} {items others : List α}
    (each : List.Forall₂ R items others) :
    List.Forall₂ (fun item other => item ∈ items ∧ other ∈ others ∧ R item other)
      items others := by
  induction each with
  | nil => exact .nil
  | cons first _ ih =>
      refine .cons ⟨List.mem_cons_self, List.mem_cons_self, first⟩ (ih.imp ?_)
      rintro item other ⟨among, also, related⟩
      exact ⟨List.mem_cons_of_mem _ among, List.mem_cons_of_mem _ also, related⟩

theorem DecisionRow.forall₂_of_beq {rows others : List DecisionRow}
    (equal : beqAll rows others = true) :
    List.Forall₂ (fun row other => row.antecedent.beq other.antecedent = true ∧
      row.consequent == other.consequent) rows others := by
  refine forall₂_of_beqAll (by simp [beqAll]) (by simp [beqAll]) ?_ equal
  intro row rows other others equal
  obtain ⟨antecedent, consequent⟩ := row
  obtain ⟨against, concluded⟩ := other
  rw [beqAll, beq, Bool.and_eq_true, Bool.and_eq_true] at equal
  exact equal

theorem ScoreRow.forall₂_of_beq {rows others : List ScoreRow}
    (equal : beqAll rows others = true) :
    List.Forall₂ (fun row other => row.antecedent.beq other.antecedent = true ∧
      row.score == other.score) rows others := by
  refine forall₂_of_beqAll (by simp [beqAll]) (by simp [beqAll]) ?_ equal
  intro row rows other others equal
  obtain ⟨antecedent, score⟩ := row
  obtain ⟨against, scored⟩ := other
  rw [beqAll, beq, Bool.and_eq_true, Bool.and_eq_true] at equal
  exact equal

theorem ScoreSet.forall₂_of_beq {sets others : List ScoreSet}
    (equal : beqAll sets others = true) :
    List.Forall₂ (fun set other => ScoreRow.beqAll set.rows other.rows = true ∧
      set.weight == other.weight) sets others := by
  refine forall₂_of_beqAll (by simp [beqAll]) (by simp [beqAll]) ?_ equal
  intro set sets other others equal
  obtain ⟨rows, weight⟩ := set
  obtain ⟨against, weighed⟩ := other
  rw [beqAll, beq, Bool.and_eq_true, Bool.and_eq_true] at equal
  exact equal

/-! ## Conditionals and rows -/

/-- Equal tests in two lists have the same interpretation. -/
def Interpreter.Respects {m : Type → Type} [Monad m]
    (interpreter : Interpreter m) (leaves others : List Expression) : Prop :=
  ∀ leaf ∈ leaves, ∀ other ∈ others, leaf == other →
    leaf.interpret interpreter = other.interpret interpreter

section Conditions

variable {m : Type → Type} [Monad m] {interpreter : Interpreter m}

theorem Interpreter.Respects.mono {leaves others fewer less : List Expression}
    (respects : interpreter.Respects leaves others) (subset : fewer ⊆ leaves)
    (also : less ⊆ others) : interpreter.Respects fewer less :=
  fun leaf member other among =>
    respects leaf (subset member) other (also among)

mutual

theorem Condition.interpret_of_beq :
    (first second : Condition) → first.beq second = true →
      interpreter.Respects first.leaves second.leaves →
        first.interpret interpreter = second.interpret interpreter
  | .test first, .test second, equal, tests => by
      rw [Condition.beq] at equal
      rw [Condition.leaves, Condition.leaves] at tests
      rw [Condition.interpret, Condition.interpret]
      exact tests first (List.mem_singleton_self _) second
        (List.mem_singleton_self _) equal
  | .nested first, .nested second, equal, tests => by
      rw [Condition.beq] at equal
      rw [Condition.leaves, Condition.leaves] at tests
      rw [Condition.interpret, Condition.interpret]
      exact Conditional.interpret_of_beq first second equal tests
  | .test _, .nested _, equal, _ => by simp [Condition.beq] at equal
  | .nested _, .test _, equal, _ => by simp [Condition.beq] at equal

theorem Conditional.interpret_of_beq :
    (first second : Conditional) → first.beq second = true →
      interpreter.Respects first.leaves second.leaves →
        first.interpret interpreter = second.interpret interpreter
  | ⟨junction, firsts⟩, ⟨other, seconds⟩, equal, tests => by
      rw [Conditional.beq, Bool.and_eq_true, beq_iff_eq] at equal
      obtain ⟨rfl, equal⟩ := equal
      rw [Conditional.leaves, Conditional.leaves] at tests
      rw [Conditional.interpret, Conditional.interpret]
      exact Condition.interpretAll_of_beq junction firsts seconds equal tests

theorem Condition.interpretAll_of_beq (junction : Junction) :
    (firsts seconds : List Condition) →
      Condition.beqAll firsts seconds = true →
        interpreter.Respects (Condition.leavesAll firsts)
          (Condition.leavesAll seconds) →
          Condition.interpretAll interpreter junction firsts =
            Condition.interpretAll interpreter junction seconds
  | [], [], _, _ => rfl
  | first :: firsts, second :: seconds, equal, tests => by
      rw [Condition.beqAll, Bool.and_eq_true] at equal
      rw [Condition.leavesAll, Condition.leavesAll] at tests
      rw [Condition.interpretAll, Condition.interpretAll,
        Condition.interpret_of_beq first second equal.1
          (tests.mono (List.subset_append_left _ _)
            (List.subset_append_left _ _)),
        Condition.interpretAll_of_beq junction firsts seconds equal.2
          (tests.mono (List.subset_append_right _ _)
            (List.subset_append_right _ _))]
  | [], _ :: _, equal, _ => by simp [Condition.beqAll] at equal
  | _ :: _, [], equal, _ => by simp [Condition.beqAll] at equal

end

end Conditions

/-- Two searches that found nothing, or related rows at the same place. -/
inductive FoundAlike {Row : Type} (R : Row → Row → Prop) :
    Option (Nat × Row) → Option (Nat × Row) → Prop
  | nothing : FoundAlike R none none
  | row (place : Nat) {row other : Row} :
      R row other → FoundAlike R (some (place, row)) (some (place, other))

theorem FoundAlike.place {Row : Type} {R : Row → Row → Prop}
    {found against : Option (Nat × Row)} (alike : FoundAlike R found against) :
    found.map (·.1) = against.map (·.1) := by
  cases alike with
  | nothing => rfl
  | row => rfl

/-- Rows with equal consequents. -/
def DecisionRow.ConcludeAlike (row other : DecisionRow) : Prop :=
  row.consequent == other.consequent

/-- Rows with equal scores, which are finite. -/
def ScoreRow.ScoreAlike (row other : ScoreRow) : Prop :=
  row.score == other.score ∧ row.score.isFinite = true

section Rows

variable {facts : Facts}

/-- Rows with the same antecedents are found at the same place. -/
theorem Interpreter.search_coincide {Row : Type} {antecedent : Row → Conditional}
    {matched otherMatched : Nat → Row → Event} {R : Row → Row → Prop}
    {rows others : List Row}
    (each : List.Forall₂ (fun row other =>
      (antecedent row).interpret (.plain facts) =
        (antecedent other).interpret (.plain facts) ∧ R row other) rows others)
    (place : Nat) :
    Coincide (FoundAlike R)
      ((Interpreter.plain facts).search antecedent matched place rows)
      ((Interpreter.plain facts).search antecedent otherMatched place
        others) := by
  induction each generalizing place with
  | nil => exact .ok .nothing
  | @cons row other rows others first _ ih =>
      rw [search, search, first.1]
      cases (antecedent other).interpret (.plain facts) with
      | error defect => exact .error defect
      | ok applies =>
          cases applies with
          | true => exact .ok (.row place first.2)
          | false => exact ih (place + 1)

theorem DecisionSet.interpret_coincide {set other : DecisionSet}
    (equal : set.beq other = true)
    (tests : (Interpreter.plain facts).Respects set.leaves other.leaves) :
    Coincide (FoundAlike DecisionRow.ConcludeAlike)
      (set.interpret (.plain facts)) (other.interpret (.plain facts)) := by
  obtain ⟨rows⟩ := set
  obtain ⟨others⟩ := other
  rw [beq] at equal
  rw [interpret, interpret, DecisionRow.interpretAll_eq_search,
    DecisionRow.interpretAll_eq_search]
  refine Interpreter.search_coincide ?_ 0
  refine (forall₂_mem (DecisionRow.forall₂_of_beq equal)).imp ?_
  rintro row against ⟨among, also, same, concluded⟩
  refine ⟨Conditional.interpret_of_beq _ _ same (tests.mono ?_ ?_), concluded⟩
  · exact fun leaf inside => List.mem_flatMap.mpr ⟨row, among, inside⟩
  · exact fun leaf inside => List.mem_flatMap.mpr ⟨against, also, inside⟩

theorem ScoreSet.interpret_coincide {set other : ScoreSet}
    (finite : ∀ row ∈ set.rows, row.score.isFinite = true)
    (equal : ScoreRow.beqAll set.rows other.rows = true)
    (tests : (Interpreter.plain facts).Respects set.leaves other.leaves) :
    Coincide (FoundAlike ScoreRow.ScoreAlike)
      (set.interpret (.plain facts)) (other.interpret (.plain facts)) := by
  rw [interpret, interpret, ScoreRow.interpretAll_eq_search,
    ScoreRow.interpretAll_eq_search]
  refine Interpreter.search_coincide ?_ 0
  refine (forall₂_mem (ScoreRow.forall₂_of_beq equal)).imp ?_
  rintro row against ⟨among, also, same, scored⟩
  refine ⟨Conditional.interpret_of_beq _ _ same (tests.mono ?_ ?_), scored,
    finite row among⟩
  · exact fun leaf inside => List.mem_flatMap.mpr ⟨row, among, inside⟩
  · exact fun leaf inside => List.mem_flatMap.mpr ⟨against, also, inside⟩

/-- Equal scores under equal weights contribute equal finite numbers. -/
theorem ScoreSet.contribution_beq {set other : ScoreSet}
    (inRange : 0 ≤ set.weight ∧ set.weight ≤ 1)
    (equal : set.weight == other.weight)
    {matched against : Option (Nat × ScoreRow)}
    (alike : FoundAlike ScoreRow.ScoreAlike matched against) :
    set.contribution matched == other.contribution against ∧
      (set.contribution matched).isFinite = true := by
  cases alike with
  | nothing =>
      have zero : (0 : Float).isFinite = true := rfl
      exact ⟨beq_self (isNaN_of_isFinite zero), zero⟩
  | row place related =>
      obtain ⟨scored, finite⟩ := related
      have weight := isFinite_of_mem_unit inRange.1 inRange.2
      have product := isFinite_mul finite inRange.1 inRange.2
      exact ⟨mul_beq scored equal finite weight (isNaN_of_isFinite product),
        product⟩

/-- Equal totals stay equal when the contributions of equal rulesets are
added. -/
theorem ScoreSet.interpretReports_coincide {sets others : List ScoreSet}
    {total other : Float}
    (checked : ∀ set ∈ sets,
      (∀ row ∈ set.rows, row.score.isFinite = true) ∧
        0 ≤ set.weight ∧ set.weight ≤ 1)
    (each : List.Forall₂ (fun set other =>
      ScoreRow.beqAll set.rows other.rows = true ∧ set.weight == other.weight)
        sets others)
    (tests : (Interpreter.plain facts).Respects (sets.flatMap leaves)
      (others.flatMap leaves))
    (equal : total == other) :
    Coincide (fun found against => found.1 == against.1 ∧
        found.2.map SetReport.row? = against.2.map SetReport.row?)
      (interpretReports (.plain facts) total sets)
      (interpretReports (.plain facts) other others) := by
  induction each generalizing total other with
  | nil => exact .ok ⟨equal, rfl⟩
  | @cons set against sets others first _ ih =>
      rw [List.forall_mem_cons] at checked
      rw [List.flatMap_cons, List.flatMap_cons] at tests
      obtain ⟨⟨finite, inRange⟩, rest⟩ := checked
      obtain ⟨rows, weight⟩ := first
      have here := tests.mono (List.subset_append_left _ _)
        (List.subset_append_left _ _)
      have later := tests.mono (List.subset_append_right _ _)
        (List.subset_append_right _ _)
      rw [interpretReports, interpretReports]
      refine (interpret_coincide finite rows here).bind fun matched found alike => ?_
      obtain ⟨same, number⟩ := contribution_beq inRange weight alike
      have sum := add_beq equal same (add_isNaN (isNaN_of_beq equal) number)
      refine (ih rest later sum).bind fun one two related => ?_
      refine .ok ⟨related.1, ?_⟩
      rw [List.map_cons, List.map_cons, related.2]
      exact congrArg (· :: _) alike.place

end Rows

end Rulebook
