import Rulebook.Evaluation.Execute
import Rulebook.Proofs.Interpretation
import Rulebook.Proofs.NearestDoubles

/-!
# Tests of integer facts

A fact that holds an integer is tested as the double nearest to it.  This is the test
of the integer itself if the integer is a double, as every integer of 53 bits is, and
it is also if no baseline is that nearest double: a double that lies on the other side
would be nearer.  Only a long integer that is compared with its own nearest double is
taken for what it is not.
-/

namespace Rulebook

/-! ## Integers and their nearest doubles -/

theorem nearest_ofInt {integer : Int} (bounded : integer.natAbs ≤ 2 ^ 63) :
    Nearest integer (Float.ofInt integer) := by
  have natural {absolute : Nat} (bounded : absolute ≤ 2 ^ 63) :
      Nearest absolute (Float.ofNat absolute) := by
    rcases Nat.lt_or_ge absolute (2 ^ 53) with short | large
    · obtain ⟨finite, exact⟩ := ofNat_exact short
      exact .of_real_eq finite (exact.trans (Int.cast_natCast _).symm)
    · exact .ofNat_long large bounded
  cases integer with
  | ofNat absolute => exact natural bounded
  | negSucc absolute => exact (natural bounded).neg

namespace Nearest

variable {integer : Int} {number : Float}

/-- An integer that is a double is its own nearest double. -/
theorem real_eq (nearest : Nearest integer number)
    (double : ∃ other : Float, other.isFinite = true ∧ realOf other = integer) :
    realOf number = integer := by
  obtain ⟨other, finite, exact⟩ := double
  have near := nearest.closest other finite
  rw [exact, sub_self, abs_zero, abs_nonpos_iff, sub_eq_zero] at near
  exact near

theorem le_of_le (nearest : Nearest integer number) {bound : Float}
    (finite : bound.isFinite = true) (below : (integer : ℝ) ≤ realOf bound) :
    realOf number ≤ realOf bound := by
  have near := nearest.closest bound finite
  rw [abs_of_nonneg (sub_nonneg.mpr below)] at near
  linarith [le_abs_self (realOf number - integer)]

theorem ge_of_ge (nearest : Nearest integer number) {bound : Float}
    (finite : bound.isFinite = true) (above : realOf bound ≤ integer) :
    realOf bound ≤ realOf number := by
  have near := nearest.closest bound finite
  rw [abs_of_nonpos (sub_nonpos.mpr above)] at near
  linarith [neg_abs_le (realOf number - integer)]

/-- A double other than the nearest one lies to the integer as it lies to the nearest
one. -/
theorem same_side (nearest : Nearest integer number) {bound : Float}
    (known : bound.isNaN = false) (apart : valueOf bound ≠ valueOf number) :
    (((integer : ℝ) : EReal) < valueOf bound ↔ valueOf number < valueOf bound) ∧
      (valueOf bound < ((integer : ℝ) : EReal) ↔ valueOf bound < valueOf number) := by
  rw [valueOf_of_finite nearest.finite] at apart ⊢
  by_cases finite : bound.isFinite = true
  · rw [valueOf_of_finite finite, Ne, EReal.coe_eq_coe_iff] at apart
    rw [valueOf_of_finite finite]
    simp only [EReal.coe_lt_coe_iff]
    refine ⟨⟨fun below => ?_, fun below => ?_⟩, fun above => ?_, fun above => ?_⟩
    · exact (nearest.le_of_le finite below.le).lt_of_ne' apart
    · exact lt_of_not_ge fun above => below.not_ge (nearest.ge_of_ge finite above)
    · exact (nearest.ge_of_ge finite above.le).lt_of_ne apart
    · exact lt_of_not_ge fun below => above.not_ge (nearest.le_of_le finite below)
  · rcases valueOf_of_infinite known finite with top | bottom
    · rw [top]
      exact ⟨iff_of_true (EReal.coe_lt_top _) (EReal.coe_lt_top _),
        iff_of_false not_top_lt not_top_lt⟩
    · rw [bottom]
      exact ⟨iff_of_false not_lt_bot not_lt_bot,
        iff_of_true (EReal.bot_lt_coe _) (EReal.bot_lt_coe _)⟩

end Nearest

/-- An integer of 53 bits is a double. -/
theorem exists_double {integer : Int} (short : integer.natAbs ≤ 2 ^ 53) :
    ∃ other : Float, other.isFinite = true ∧ realOf other = integer := by
  have natural {absolute : Nat} (short : absolute ≤ 2 ^ 53) :
      ∃ other : Float, other.isFinite = true ∧ realOf other = absolute := by
    rcases short.lt_or_eq with bits | rfl
    · exact ⟨_, ofNat_exact bits⟩
    · have form : (Float.ofNat (2 ^ 53)).toModel.unpack =
          .finite .positive (2 ^ 52) 1 (by decide) :=
        rfl
      refine ⟨Float.ofNat (2 ^ 53), rfl, ?_⟩
      rw [realOf, form, unpackedReal_positive]
      norm_num
  cases integer with
  | ofNat absolute => exact natural short
  | negSucc absolute =>
      obtain ⟨other, finite, exact⟩ := natural short
      refine ⟨-other, isFinite_neg finite, ?_⟩
      rw [realOf_neg finite, exact]
      exact (Int.cast_negSucc absolute).symm

/-! ## Tests of integers -/

/-- What a test makes of an integer: it tests the nearest double, and thereby the
integer itself unless the integer is no double and a baseline is the nearest one. -/
structure NumericTest.TestsNearest (test : NumericTest) (integer : Int)
    (truth : Bool) (number : Float) : Prop where
  nearest : Nearest integer number
  rounded : truth = true ↔ test.Holds (valueOf number)
  double : (∃ other : Float, other.isFinite = true ∧ realOf other = integer) →
    (truth = true ↔ test.Holds ((integer : ℝ) : EReal))
  short : integer.natAbs ≤ 2 ^ 53 →
    (truth = true ↔ test.Holds ((integer : ℝ) : EReal))
  apart : (∀ bound ∈ test.numbers, valueOf bound ≠ valueOf number) →
    (truth = true ↔ test.Holds ((integer : ℝ) : EReal))

theorem NumericTest.testsNearest {test : NumericTest} {integer : Int} {number : Float}
    (nearest : Nearest integer number)
    (bounds : ∀ bound ∈ test.numbers, bound.isNaN = false) :
    test.TestsNearest integer (test.accepts number) number := by
  have rounded := test.accepts_iff_holds (isNaN_of_isFinite nearest.finite) bounds
  have double (double : ∃ other : Float, other.isFinite = true ∧
      realOf other = integer) :
      test.accepts number = true ↔ test.Holds ((integer : ℝ) : EReal) := by
    rw [rounded, valueOf_of_finite nearest.finite, nearest.real_eq double]
  refine ⟨nearest, rounded, double, fun short => double (exists_double short),
    fun apart => rounded.trans ?_⟩
  refine NumericTest.holds_congr (fun bound member => ?_) fun bound member => ?_
  · exact (nearest.same_side (bounds bound member) (apart bound member)).1.symm
  · exact (nearest.same_side (bounds bound member) (apart bound member)).2.symm

/-- A numeric test of a fact that holds an integer never fails, and it compares the
double nearest to the integer. -/
theorem Expression.integer_compared {facts : Facts} {name : String}
    {integer : Int64} (given : facts.get? name = some (.int integer))
    {test : NumericTest} (bounds : ∀ bound ∈ test.numbers, bound.isNaN = false) :
    ∃ truth number,
      (Expression.onFact name (.numeric test)).evaluate facts = .ok truth ∧
        test.TestsNearest integer.toInt truth number := by
  have bounded : integer.toInt.natAbs ≤ 2 ^ 63 := by
    have low := integer.minValue_le_toInt
    have high := integer.toInt_le
    rw [Int64.toInt_minValue] at low
    rw [Int64.toInt_maxValue] at high
    omega
  have resolved : facts.resolve name .numeric =
      .ok (some (.number (Float.ofInt integer.toInt))) := by
    rw [Facts.resolve, given]
    rfl
  refine ⟨_, _, ?_, NumericTest.testsNearest (nearest_ofInt bounded) bounds⟩
  have walked : ((Token.fact name .numeric).walk facts .empty).result =
      .ok (some (.number (Float.ofInt integer.toInt))) := by
    rw [Token.walk, Walk.ofExcept_apply, resolved]
  rw [evaluate, Walk.result, Walk.start, onFact, walk]
  exact Walk.bind_result_eq_ok_iff.mpr ⟨_, walked, rfl⟩

section Sample

/-- The facts with an integer of 54 bits that is no double. -/
def Facts.long : Facts :=
  .ofList [("n", .int 9007199254740993)]

theorem Facts.get?_long : long.get? "n" = some (.int 9007199254740993) :=
  rfl

end Sample

/-- The integer of 54 bits is tested against a greater one. -/
theorem Expression.integer_compared_long :
    Facts.long.get? "n" = some (.int 9007199254740993) ∧
      ∃ truth number,
        (Expression.onFact "n" (.numeric (.lt 9007199254740996))).evaluate .long =
            .ok truth ∧
          NumericTest.TestsNearest (.lt 9007199254740996)
            (9007199254740993 : Int64).toInt truth number := by
  have known : (9007199254740996 : Float).isNaN = false := by decide +kernel
  exact ⟨Facts.get?_long, integer_compared Facts.get?_long
    (List.forall_mem_singleton.mpr known)⟩

/-- The integer of 54 bits is taken for the double nearest to it, which is a different
integer. -/
theorem Expression.integer_taken_for_double :
    Facts.long.get? "n" = some (.int 9007199254740993) ∧
      (9007199254740992 : Float).isNaN = false ∧
      (Expression.onFact "n" (.numeric (.eq 9007199254740992))).evaluate .long =
        .ok true ∧
      ¬ (NumericTest.eq 9007199254740992).Holds
        (((9007199254740993 : Int) : ℝ) : EReal) := by
  have known : (9007199254740992 : Float).isFinite = true := by decide +kernel
  have form : (9007199254740992 : Float).toModel.unpack =
      .finite .positive (2 ^ 52) 1 (by decide) :=
    rfl
  refine ⟨Facts.get?_long, isNaN_of_isFinite known, ?_, ?_⟩
  · with_unfolding_all rfl
  · rw [NumericTest.Holds, valueOf_of_finite known, EReal.coe_eq_coe_iff, realOf, form,
      unpackedReal_positive]
    norm_num

end Rulebook
