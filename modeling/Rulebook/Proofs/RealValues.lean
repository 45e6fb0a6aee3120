import Rulebook.Proofs.CanonicalDoubles
import Rulebook.Proofs.Storing

/-!
# Values of doubles

A double that is not NaN is a real number or one of the two infinities.  Comparing
canonical forms compares these values: the form with the greater exponent has a
mantissa of 53 bits, so it outweighs any mantissa at a lesser exponent.
-/

open Float.Model

namespace Rulebook

/-- The real number that an unpacked number stands for.  What is not finite stands for
none and is given zero. -/
noncomputable def unpackedReal : UnpackedFloat → ℝ
  | .finite sign mantissa exponent _ => sign.apply mantissa * (2 : ℝ) ^ exponent
  | _ => 0

/-- The value of an unpacked number.  NaN has none and is given zero. -/
noncomputable def unpackedValue : UnpackedFloat → EReal
  | .infinity .positive => ⊤
  | .infinity .negative => ⊥
  | value => (unpackedReal value : EReal)

/-- The real number that a finite double stands for. -/
noncomputable def realOf (number : Float) : ℝ :=
  unpackedReal number.toModel.unpack

/-- The value of a double that is not NaN. -/
noncomputable def valueOf (number : Float) : EReal :=
  unpackedValue number.toModel.unpack

theorem unpackedValue_of_finite {value : UnpackedFloat}
    (finite : value.isFinite = true) :
    unpackedValue value = (unpackedReal value : EReal) := by
  cases value with
  | notANumber | infinity => cases finite
  | zero | finite => rfl

theorem valueOf_of_finite {number : Float} (finite : number.isFinite = true) :
    valueOf number = (realOf number : EReal) :=
  unpackedValue_of_finite finite

theorem valueOf_of_infinite {number : Float} (known : number.isNaN = false)
    (infinite : ¬ number.isFinite = true) :
    valueOf number = ⊤ ∨ valueOf number = ⊥ := by
  change number.toModel.unpack.isNaN = false at known
  change ¬ number.toModel.unpack.isFinite = true at infinite
  rw [valueOf]
  cases value : number.toModel.unpack with
  | notANumber =>
      rw [value] at known
      cases known
  | zero | finite =>
      rw [value] at infinite
      exact absurd rfl infinite
  | infinity sign =>
      cases sign
      · exact .inr rfl
      · exact .inl rfl

/-! ## Forms in order -/

/-- Forms are compared by their exponents first. -/
def FormLt (mantissa : Nat) (exponent : Int) (rest : Nat) (reach : Int) : Prop :=
  exponent < reach ∨ exponent = reach ∧ mantissa < rest

theorem compare_then_eq_lt {mantissa rest : Nat} {exponent reach : Int} :
    (compare exponent reach).then (compare mantissa rest) = .lt ↔
      FormLt mantissa exponent rest reach := by
  rw [Ordering.then_eq_lt, compare_lt_iff_lt, compare_eq_iff_eq, compare_lt_iff_lt]
  rfl

section Forms

variable {sign against : UnpackedFloat.Sign} {mantissa rest : Nat}
  {exponent reach : Int} {positive : 0 < mantissa} {also : 0 < rest}

theorem scaled_lt_of_formLt
    (one : Canonical (.finite sign mantissa exponent positive))
    (other : Canonical (.finite against rest reach also))
    (below : FormLt mantissa exponent rest reach) :
    (mantissa : ℝ) * 2 ^ exponent < rest * 2 ^ reach := by
  obtain ⟨bits, least, _⟩ := one
  obtain ⟨_, _, normal⟩ := other
  rcases below with lower | ⟨rfl, fewer⟩
  · have full : (2 : ℝ) ^ 52 ≤ rest := by
      have large : 2 ^ 52 ≤ rest := normal.resolve_right (by omega)
      exact_mod_cast large
    have short : (mantissa : ℝ) < 2 ^ 53 := by exact_mod_cast bits
    calc
      (mantissa : ℝ) * 2 ^ exponent < 2 ^ 53 * 2 ^ exponent := by gcongr
      _ = 2 ^ 52 * 2 ^ (exponent + 1) := by
        rw [zpow_add_one₀ two_ne_zero]
        ring
      _ ≤ 2 ^ 52 * 2 ^ reach := by
        gcongr
        · exact one_le_two
        · omega
      _ ≤ rest * 2 ^ reach := by gcongr
  · have fewer : (mantissa : ℝ) < rest := by exact_mod_cast fewer
    gcongr

theorem formLt_iff_scaled_lt
    (one : Canonical (.finite sign mantissa exponent positive))
    (other : Canonical (.finite against rest reach also)) :
    FormLt mantissa exponent rest reach ↔
      (mantissa : ℝ) * 2 ^ exponent < rest * 2 ^ reach := by
  refine ⟨scaled_lt_of_formLt one other, fun below => ?_⟩
  by_contra notBelow
  have above : FormLt rest reach mantissa exponent ∨
      exponent = reach ∧ mantissa = rest := by
    unfold FormLt at *
    omega
  rcases above with above | ⟨rfl, rfl⟩
  · exact absurd (scaled_lt_of_formLt other one above) below.not_gt
  · exact absurd below (lt_irrefl _)

end Forms

/-! ## Comparison of values -/

section Comparison

variable {first second : UnpackedFloat}

theorem unpackedReal_positive {mantissa : Nat} {exponent : Int}
    (positive : 0 < mantissa) :
    unpackedReal (.finite .positive mantissa exponent positive) =
      mantissa * (2 : ℝ) ^ exponent :=
  congrArg (· * (2 : ℝ) ^ exponent) (Int.cast_natCast mantissa)

theorem unpackedReal_pos {mantissa : Nat} {exponent : Int}
    (positive : 0 < mantissa) :
    0 < unpackedReal (.finite .positive mantissa exponent positive) := by
  have some : (0 : ℝ) < mantissa := by exact_mod_cast positive
  rw [unpackedReal_positive]
  positivity

theorem unpackedReal_neg (value : UnpackedFloat) :
    unpackedReal value.neg = -unpackedReal value := by
  cases value with
  | notANumber | infinity | zero => exact neg_zero.symm
  | finite sign mantissa exponent positive =>
      cases sign <;>
        simp [UnpackedFloat.neg, unpackedReal, UnpackedFloat.Sign.apply]

theorem unpackedReal_neg_lt_zero {mantissa : Nat} {exponent : Int}
    (positive : 0 < mantissa) :
    unpackedReal (.finite .negative mantissa exponent positive) < 0 := by
  have opposite := unpackedReal_neg (.finite .positive mantissa exponent positive)
  exact opposite.trans_lt (neg_neg_of_pos (unpackedReal_pos positive))

theorem compare_positive {mantissa rest : Nat} {exponent reach : Int}
    {positive : 0 < mantissa} {also : 0 < rest}
    (one : Canonical (.finite .positive mantissa exponent positive))
    (other : Canonical (.finite .positive rest reach also)) :
    UnpackedFloat.compare (.finite .positive mantissa exponent positive)
        (.finite .positive rest reach also) = some .lt ↔
      unpackedReal (.finite .positive mantissa exponent positive) <
        unpackedReal (.finite .positive rest reach also) := by
  rw [unpackedReal_positive, unpackedReal_positive, ← formLt_iff_scaled_lt one other,
    ← compare_then_eq_lt]
  exact Option.some_inj

/-- Negative numbers are in the opposite order of their opposites. -/
theorem compare_negative {mantissa rest : Nat} {exponent reach : Int}
    (positive : 0 < mantissa) (also : 0 < rest) :
    UnpackedFloat.compare (.finite .negative mantissa exponent positive)
        (.finite .negative rest reach also) =
      UnpackedFloat.compare (.finite .positive rest reach also)
        (.finite .positive mantissa exponent positive) := by
  refine congrArg some ?_
  rw [Ordering.swap_then, ← Std.OrientedCmp.eq_swap, ← Std.OrientedCmp.eq_swap]

/-- Canonical forms of real numbers compare as these numbers do. -/
theorem compare_eq_lt_iff_real (one : Canonical first) (other : Canonical second)
    (finite : first.isFinite = true) (also : second.isFinite = true) :
    first.compare second = some .lt ↔ unpackedReal first < unpackedReal second := by
  cases first with
  | notANumber => cases finite
  | infinity => cases finite
  | zero sign =>
      cases second with
      | notANumber => cases also
      | infinity => cases also
      | zero => exact iff_of_false nofun (lt_irrefl _)
      | finite against rest reach some =>
          cases against with
          | positive => exact iff_of_true rfl (unpackedReal_pos some)
          | negative => exact iff_of_false nofun (unpackedReal_neg_lt_zero some).not_gt
  | finite sign mantissa exponent positive =>
      cases second with
      | notANumber => cases also
      | infinity => cases also
      | zero =>
          cases sign with
          | positive => exact iff_of_false nofun (unpackedReal_pos positive).not_gt
          | negative => exact iff_of_true rfl (unpackedReal_neg_lt_zero positive)
      | finite against rest reach some =>
          cases sign with
          | positive =>
              cases against with
              | positive => exact compare_positive one other
              | negative =>
                  exact iff_of_false nofun ((unpackedReal_neg_lt_zero some).trans
                    (unpackedReal_pos positive)).not_gt
          | negative =>
              cases against with
              | positive =>
                  exact iff_of_true rfl ((unpackedReal_neg_lt_zero positive).trans
                    (unpackedReal_pos some))
              | negative =>
                  rw [compare_negative, compare_positive other one, ← neg_lt_neg_iff,
                    ← unpackedReal_neg, ← unpackedReal_neg]
                  rfl

theorem compare_eq_lt_iff (one : Canonical first) (other : Canonical second)
    (number : first.isNaN = false) (also : second.isNaN = false) :
    first.compare second = some .lt ↔ unpackedValue first < unpackedValue second := by
  by_cases finite : first.isFinite = true ∧ second.isFinite = true
  · rw [unpackedValue_of_finite finite.1, unpackedValue_of_finite finite.2,
      EReal.coe_lt_coe_iff]
    exact compare_eq_lt_iff_real one other finite.1 finite.2
  · cases first with
    | notANumber => cases number
    | infinity sign =>
        cases second with
        | notANumber => cases also
        | infinity against =>
            cases sign <;> cases against
            · exact iff_of_false nofun (lt_irrefl _)
            · exact iff_of_true rfl bot_lt_top
            · exact iff_of_false nofun not_top_lt
            · exact iff_of_false nofun (lt_irrefl _)
        | zero | finite =>
            cases sign
            · exact iff_of_true rfl (EReal.bot_lt_coe _)
            · exact iff_of_false nofun not_top_lt
    | zero | finite sign =>
        cases second with
        | notANumber => cases also
        | infinity against =>
            cases against
            · exact iff_of_false nofun not_lt_bot
            · exact iff_of_true rfl (EReal.coe_lt_top _)
        | zero | finite => exact absurd ⟨rfl, rfl⟩ finite

end Comparison

section Doubles

variable {number other : Float}

theorem lt_iff_valueOf (one : number.isNaN = false) (also : other.isNaN = false) :
    number < other ↔ valueOf number < valueOf other :=
  lt_iff_compare.trans
    (compare_eq_lt_iff (canonical_unpack _) (canonical_unpack _) one also)

theorem le_iff_valueOf (one : number.isNaN = false) (also : other.isNaN = false) :
    number ≤ other ↔ valueOf number ≤ valueOf other := by
  rw [← not_lt, ← lt_iff_valueOf also one]
  constructor
  · intro le lt
    rw [le_iff_compare] at le
    rw [lt_iff_compare] at lt
    unfold Float.Model.compare at *
    rw [compare_swap, lt] at le
    cases le
  · exact le_of_not_lt one also

theorem beq_iff_valueOf (one : number.isNaN = false) (also : other.isNaN = false) :
    (number == other) = true ↔ valueOf number = valueOf other := by
  constructor
  · intro equal
    rw [beq_eq_compare, beq_iff_eq] at equal
    rcases compare_eq_cases equal with same | ⟨sign, against, zero, also⟩
    · rw [valueOf, same]
      rfl
    · rw [valueOf, valueOf, zero, also]
      rfl
  · intro same
    obtain ⟨order, compared⟩ := Option.isSome_iff_exists.mp (compare_isSome one also)
    cases order with
    | lt =>
        have below := (lt_iff_valueOf one also).mp (lt_iff_compare.mpr compared)
        exact absurd same below.ne
    | eq =>
        rw [beq_eq_compare, beq_iff_eq]
        exact compared
    | gt =>
        have swapped : other.toModel.compare number.toModel = some .lt := by
          unfold Float.Model.compare
          rw [compare_swap, compared]
          rfl
        have below := (lt_iff_valueOf also one).mp (lt_iff_compare.mpr swapped)
        exact absurd same below.ne'

end Doubles

/-! ## Tests of values -/

namespace NumericTest

variable {test : NumericTest}

/-- The mathematical reading of a test: what it says of a value, given the values of
its baselines. -/
def Holds (value : EReal) : NumericTest → Prop
  | .lt baseline => value < valueOf baseline
  | .lte baseline => value ≤ valueOf baseline
  | .gt baseline => valueOf baseline < value
  | .gte baseline => valueOf baseline ≤ value
  | .eq baseline => value = valueOf baseline
  | .notEq baseline => value ≠ valueOf baseline
  | .between floor ceiling => valueOf floor ≤ value ∧ value ≤ valueOf ceiling
  | .isNone => False

/-- A test of a number that is not NaN accepts by the value of the number. -/
theorem accepts_iff_holds {number : Float} (known : number.isNaN = false)
    (bounds : ∀ bound ∈ test.numbers, bound.isNaN = false) :
    test.accepts number = true ↔ test.Holds (valueOf number) := by
  have single {baseline : Float} (only : test.numbers = [baseline]) :
      baseline.isNaN = false :=
    bounds baseline (only ▸ List.mem_cons_self)
  cases test with
  | isNone => exact iff_of_false nofun id
  | lt baseline =>
      exact decide_eq_true_iff.trans (lt_iff_valueOf known (single rfl))
  | lte baseline =>
      exact decide_eq_true_iff.trans (le_iff_valueOf known (single rfl))
  | gt baseline =>
      exact decide_eq_true_iff.trans (lt_iff_valueOf (single rfl) known)
  | gte baseline =>
      exact decide_eq_true_iff.trans (le_iff_valueOf (single rfl) known)
  | eq baseline => exact beq_iff_valueOf known (single rfl)
  | notEq baseline =>
      rw [accepts, bne, Bool.not_eq_true', ← Bool.not_eq_true,
        beq_iff_valueOf known (single rfl)]
      rfl
  | between floor ceiling =>
      have both := List.forall_mem_cons.mp bounds
      have low : floor.isNaN = false := both.2 floor List.mem_cons_self
      rw [accepts, Bool.and_eq_true, decide_eq_true_iff, decide_eq_true_iff,
        le_iff_valueOf low known, le_iff_valueOf known both.1]
      rfl

/-- Values that lie in the same way to every baseline pass the same tests. -/
theorem holds_congr {value other : EReal}
    (below : ∀ bound ∈ test.numbers, value < valueOf bound ↔ other < valueOf bound)
    (above : ∀ bound ∈ test.numbers, valueOf bound < value ↔ valueOf bound < other) :
    test.Holds value ↔ test.Holds other := by
  have equal {bound : Float} (member : bound ∈ test.numbers) :
      value = valueOf bound ↔ other = valueOf bound := by
    rw [eq_iff_le_not_lt, eq_iff_le_not_lt, ← not_lt, ← not_lt, below bound member,
      above bound member]
  have single {baseline : Float} (only : test.numbers = [baseline]) :
      baseline ∈ test.numbers :=
    only ▸ List.mem_cons_self
  cases test with
  | isNone => exact Iff.rfl
  | lt baseline => exact below _ (single rfl)
  | lte baseline => exact not_lt.symm.trans ((above _ (single rfl)).not.trans not_lt)
  | gt baseline => exact above _ (single rfl)
  | gte baseline => exact not_lt.symm.trans ((below _ (single rfl)).not.trans not_lt)
  | eq baseline => exact equal (single rfl)
  | notEq baseline => exact (equal (single rfl)).not
  | between floor ceiling =>
      have atFloor : floor ∈ (between floor ceiling).numbers :=
        List.mem_cons_of_mem _ List.mem_cons_self
      have atCeiling : ceiling ∈ (between floor ceiling).numbers :=
        List.mem_cons_self
      rw [Holds, Holds, ← not_lt, ← not_lt, below floor atFloor,
        above ceiling atCeiling, not_lt, not_lt]

end NumericTest

end Rulebook
