import Mathlib.Algebra.Order.Group.Nat
import Rulebook.Proofs.Doubles

/-!
# Weighted scores

A weight lies between zero and one, so a weighted score is no larger than the
score.  It is rounded, but rounding does not go past a number that needs no
rounding, and so the product of a finite score and a weight is finite.

Sums of such products are therefore never NaN.  What is computed from equal
numbers in this way is equal again.
-/

open Float.Model

namespace Rulebook

/-! ## Rounding -/

theorem shiftRight_mantissa (extended : UnpackedFloat.ExtendedMantissa)
    (count : Nat) :
    (extended >>> count).mantissa = extended.mantissa / 2 ^ count := by
  induction count with
  | zero => exact (Nat.div_one _).symm
  | succ count ih =>
      change (extended >>> count).mantissa / 2 = _
      rw [ih, Nat.div_div_eq_div_mul, Nat.pow_succ]

/-- Nothing is lost by shifting what ends in enough zeros. -/
theorem shiftRight_exact (mantissa count : Nat) :
    (⟨mantissa * 2 ^ count, false, false⟩ : UnpackedFloat.ExtendedMantissa) >>>
      count = ⟨mantissa, false, false⟩ := by
  induction count generalizing mantissa with
  | zero => rw [Nat.pow_zero, Nat.mul_one]; rfl
  | succ count ih =>
      have even : mantissa * 2 ^ (count + 1) = mantissa * 2 * 2 ^ count := by
        rw [Nat.pow_succ, Nat.mul_assoc, Nat.mul_comm 2]
      change UnpackedFloat.ExtendedMantissa.shiftRightOne
        ((⟨_, false, false⟩ : UnpackedFloat.ExtendedMantissa) >>> count) = _
      rw [even, ih, UnpackedFloat.ExtendedMantissa.shiftRightOne]
      simp

/-- Rounding does not go past a bound that needs no rounding. -/
theorem roundedMantissa_le {mantissa count bound : Nat}
    (within : mantissa ≤ bound * 2 ^ count) :
    ((⟨mantissa, false, false⟩ : UnpackedFloat.ExtendedMantissa) >>>
      count).roundedMantissa ≤ bound := by
  have shifted := shiftRight_mantissa ⟨mantissa, false, false⟩ count
  rcases Nat.lt_or_ge (mantissa / 2 ^ count) bound with below | reached
  · -- Rounding up adds one at most.
    have up (extended : UnpackedFloat.ExtendedMantissa) :
        extended.roundedMantissa ≤ extended.mantissa + 1 := by
      obtain ⟨kept, half, rest⟩ := extended
      cases half <;> cases rest <;>
        simp only [UnpackedFloat.ExtendedMantissa.roundedMantissa,
          UnpackedFloat.ExtendedMantissa.accuracy,
          UnpackedFloat.Accuracy.roundToNearestEven] <;> omega
    exact (up _).trans (shifted ▸ below)
  · have exact : mantissa = bound * 2 ^ count :=
      Nat.le_antisymm within
        ((Nat.le_div_iff_mul_le (Nat.two_pow_pos count)).mp reached)
    rw [exact, shiftRight_exact]
    exact le_rfl

/-- A mantissa and an exponent of what is no larger than the greatest finite
double, which has a mantissa of 53 bits and the exponent 971. -/
def Small (mantissa : Nat) (exponent : Int) : Prop :=
  ∃ shift : Nat, exponent + shift = 971 ∧ mantissa ≤ (2 ^ 53 - 1) * 2 ^ shift

/-- Unpacked numbers that are packed as finite doubles. -/
def Fits : UnpackedFloat → Prop
  | .zero _ => True
  | .finite _ _ exponent _ => exponent ≤ 971
  | .infinity _ | .notANumber => False

namespace Small

variable {mantissa : Nat} {exponent : Int}

theorem shift_le (small : Small mantissa exponent) :
    (UnpackedFloat.shiftToTargetExponent .binary64 mantissa exponent
      .exact).2 ≤ 971 := by
  obtain ⟨shift, reach, within⟩ := small
  have bits : mantissa.log2 < 53 + shift := by
    by_cases zero : mantissa = 0
    · rw [zero, Nat.log2_zero]
      omega
    · rw [Nat.log2_lt zero, Nat.pow_add]
      exact within.trans_lt
        (Nat.mul_lt_mul_of_pos_right (by decide) (Nat.two_pow_pos shift))
  have least : Format.minExponent .binary64 = -1074 := rfl
  have width : Format.mantissaBits .binary64 = 53 := rfl
  change exponent + ((Format.targetExponent .binary64
    (totalExponent mantissa exponent) - exponent).toNat : Int) ≤ 971
  rw [Format.targetExponent, totalExponent, least, width]
  omega

/-- What is small stays small when it is shifted and rounded. -/
theorem rounded (small : Small mantissa exponent) {count : Nat}
    (reached : exponent + count ≤ 971) :
    Small ((⟨mantissa, false, false⟩ : UnpackedFloat.ExtendedMantissa) >>>
      count).roundedMantissa (exponent + count) := by
  obtain ⟨shift, reach, within⟩ := small
  refine ⟨shift - count, by omega, roundedMantissa_le ?_⟩
  have split : 2 ^ shift = 2 ^ (shift - count) * 2 ^ count := by
    rw [← Nat.pow_add, Nat.sub_add_cancel (by omega)]
  rw [Nat.mul_assoc, ← split]
  exact within

theorem fits (small : Small mantissa exponent) (sign : UnpackedFloat.Sign) :
    Fits (UnpackedFloat.roundWithAccuracy .binary64 sign mantissa exponent
      .exact) := by
  have first := small.shift_le
  have second := (small.rounded first).shift_le
  unfold UnpackedFloat.roundWithAccuracy
  dsimp only
  rw [apply_dite Fits, dite_prop_iff_and]
  exact ⟨fun _ => trivial, fun _ => second⟩

end Small

/-- Only the greatest exponent stands for what is not finite. -/
theorem unpack_packComponents_isFinite (sign : UnpackedFloat.Sign)
    {exponent : BitVec 11} (mantissa : BitVec 52)
    (finite : exponent ≠ -1#11) :
    (UnpackedFloat.unpack .binary64
      (UnpackedFloat.packComponents .binary64 sign exponent
        mantissa)).isFinite = true := by
  unfold UnpackedFloat.unpack
  dsimp only
  rw [UnpackedFloat.unpackExponent_packComponents, if_neg finite,
    apply_ite UnpackedFloat.isFinite, apply_dite UnpackedFloat.isFinite]
  change ite _ (dite _ (fun _ => true) fun _ => true) true = true
  rw [dite_eq_ite, ite_self, ite_self]

theorem Fits.isFinite_pack {value : UnpackedFloat} (fits : Fits value) :
    (Float.Model.pack value).isFinite = true := by
  change (UnpackedFloat.unpack .binary64
    (UnpackedFloat.pack .binary64 value)).isFinite = true
  cases value with
  | infinity sign => cases fits
  | notANumber => cases fits
  | zero sign => exact unpack_packComponents_isFinite sign _ (by decide)
  | finite sign mantissa exponent positive =>
      have bias : Format.exponentBias .binary64 = 1023 := rfl
      change exponent ≤ 971 at fits
      unfold UnpackedFloat.pack
      dsimp only
      rw [bias]
      split
      · next large => omega
      · split
        · refine unpack_packComponents_isFinite sign _ fun same => ?_
          have greatest := congrArg BitVec.toNat same
          rw [BitVec.toNat_ofNat] at greatest
          have value : (-1#11).toNat = 2047 := by decide
          omega
        · exact unpack_packComponents_isFinite sign _ (by decide)

/-- The mantissa of a finite double has 53 bits, and its exponent is limited. -/
theorem unpack_finite_le {bits : BitVec 64} {sign : UnpackedFloat.Sign}
    {mantissa : Nat} {exponent : Int} {positive : 0 < mantissa}
    (finite : UnpackedFloat.unpack .binary64 bits =
      .finite sign mantissa exponent positive) :
    mantissa ≤ 2 ^ 53 - 1 ∧ exponent ≤ 971 := by
  have bias : Format.exponentBias .binary64 = 1023 := rfl
  have fraction : (@UnpackedFloat.unpackMantissa .binary64 bits).toNat < 2 ^ 52 :=
    BitVec.isLt _
  unfold UnpackedFloat.unpack at finite
  dsimp only at finite
  rw [bias] at finite
  by_cases greatest : @UnpackedFloat.unpackExponent .binary64 bits = -1#11
  · rw [if_pos greatest] at finite
    by_cases zero : @UnpackedFloat.unpackMantissa .binary64 bits = 0#52
    · rw [if_pos zero] at finite
      cases finite
    · rw [if_neg zero] at finite
      cases finite
  · rw [if_neg greatest] at finite
    by_cases least : @UnpackedFloat.unpackExponent .binary64 bits = 0#11
    · rw [if_pos least] at finite
      by_cases zero : @UnpackedFloat.unpackMantissa .binary64 bits = 0#52
      · rw [dif_pos zero] at finite
        cases finite
      · rw [dif_neg zero] at finite
        cases finite
        rw [least, BitVec.toNat_zero]
        omega
    · rw [if_neg least] at finite
      cases finite
      have below : (@UnpackedFloat.unpackExponent .binary64 bits).toNat < 2 ^ 11 :=
        BitVec.isLt _
      have other : (@UnpackedFloat.unpackExponent .binary64 bits).toNat ≠ 2047 :=
        fun same => greatest (BitVec.eq_of_toNat_eq same)
      have whole : (1#1 ++ @UnpackedFloat.unpackMantissa .binary64 bits).toNat <
          2 ^ 53 :=
        BitVec.isLt _
      omega

/-! ## Products -/

/-- A weight is zero, or it is positive and its mantissa is no larger than what
its exponent divides by. -/
theorem unpack_of_mem_unit {weight : Float} (low : 0 ≤ weight)
    (high : weight ≤ 1) :
    (∃ sign, weight.toModel.unpack = .zero sign) ∨
      ∃ mantissa, ∃ shift : Nat, ∃ positive,
        weight.toModel.unpack =
            .finite .positive mantissa (-shift) positive ∧
          mantissa ≤ 2 ^ shift := by
  have zero : (0 : Float).toModel.unpack = .zero .positive := rfl
  have one : (1 : Float).toModel.unpack =
      .finite .positive (2 ^ 52) (-52) (by decide) :=
    rfl
  have finite := isFinite_of_mem_unit low high
  change weight.toModel.unpack.isFinite = true at finite
  rw [le_iff_compare] at low high
  unfold Float.Model.compare at low high
  rw [zero] at low
  rw [one] at high
  cases value : weight.toModel.unpack with
  | notANumber =>
      rw [value] at finite
      cases finite
  | infinity sign =>
      rw [value] at finite
      cases finite
  | zero sign => exact .inl ⟨sign, rfl⟩
  | finite sign mantissa exponent positive =>
      rw [value] at low high
      cases sign with
      | negative => cases low
      | positive =>
          have bits := (unpack_finite_le value).1
          change ((compare exponent (-52)).then
            (compare mantissa (2 ^ 52))).isLE = true at high
          rcases lt_trichotomy exponent (-52) with below | same | above
          · obtain ⟨shift, rfl⟩ := Int.exists_eq_neg_ofNat (below.le.trans (by decide))
            have large : 2 ^ 53 ≤ 2 ^ shift :=
              Nat.pow_le_pow_right (by decide) (by omega)
            exact .inr ⟨mantissa, shift, positive, rfl, by omega⟩
          · subst same
            exact .inr ⟨mantissa, 52, positive, rfl, Std.isLE_compare.mp high⟩
          · rw [compare_gt_iff_gt.mpr above] at high
            cases high

/-- A finite score stays finite when it is weighted. -/
theorem isFinite_mul {score weight : Float} (finite : score.isFinite = true)
    (low : 0 ≤ weight) (high : weight ≤ 1) :
    (score * weight).isFinite = true := by
  change score.toModel.unpack.isFinite = true at finite
  change (Float.Model.pack (UnpackedFloat.mul .binary64 score.toModel.unpack
    weight.toModel.unpack)).isFinite = true
  refine Fits.isFinite_pack ?_
  cases value : score.toModel.unpack with
  | notANumber =>
      rw [value] at finite
      cases finite
  | infinity sign =>
      rw [value] at finite
      cases finite
  | zero sign =>
      rcases unpack_of_mem_unit low high with
        ⟨other, zero⟩ | ⟨_, _, _, unit, _⟩
      · rw [zero]
        trivial
      · rw [unit]
        trivial
  | finite sign mantissa exponent positive =>
      rcases unpack_of_mem_unit low high with
        ⟨other, zero⟩ | ⟨part, shift, also, unit, within⟩
      · rw [zero]
        trivial
      · rw [unit]
        obtain ⟨bits, limited⟩ := unpack_finite_le value
        obtain ⟨room, reach⟩ := Int.exists_add_of_le limited
        refine Small.fits ⟨room + shift, by omega, ?_⟩ _
        calc
          mantissa * part ≤ (2 ^ 53 - 1) * 2 ^ shift :=
            Nat.mul_le_mul bits within
          _ ≤ (2 ^ 53 - 1) * 2 ^ (room + shift) :=
            Nat.mul_le_mul_left _
              (Nat.pow_le_pow_right (by decide) (Nat.le_add_left ..))

/-! ## Equal numbers -/

/-- Unpacked numbers that cannot be told apart as numbers. -/
inductive SameNumber : UnpackedFloat → UnpackedFloat → Prop
  | same (value : UnpackedFloat) : SameNumber value value
  | zeros (sign other : UnpackedFloat.Sign) :
      SameNumber (.zero sign) (.zero other)

namespace SameNumber

variable {first second third fourth : UnpackedFloat}

theorem of_beq {one other : Float} (equal : one == other) :
    SameNumber one.toModel.unpack other.toModel.unpack := by
  rw [beq_eq_compare, beq_iff_eq] at equal
  rcases compare_eq_cases equal with same | ⟨sign, against, zero, otherZero⟩
  · rw [same]
    exact .same _
  · rw [zero, otherZero]
    exact .zeros sign against

theorem mul (one : SameNumber first second) (other : SameNumber third fourth)
    (finite : first.isFinite = true) (also : third.isFinite = true) :
    SameNumber (.mul .binary64 first third) (.mul .binary64 second fourth) := by
  cases one with
  | same =>
      cases other with
      | same => exact .same _
      | zeros =>
          cases first with
          | infinity | notANumber => cases finite
          | zero | finite => exact .zeros _ _
  | zeros =>
      cases other with
      | same =>
          cases third with
          | infinity | notANumber => cases also
          | zero | finite => exact .zeros _ _
      | zeros => exact .zeros _ _

theorem add (one : SameNumber first second) (other : SameNumber third fourth) :
    SameNumber (.add .binary64 first third) (.add .binary64 second fourth) := by
  have sums (sign start against finish : UnpackedFloat.Sign) :
      SameNumber (.add .binary64 (.zero sign) (.zero start))
        (.add .binary64 (.zero against) (.zero finish)) := by
    cases sign <;> cases start <;> cases against <;> cases finish <;>
      exact .zeros _ _
  cases one with
  | same =>
      cases other with
      | same => exact .same _
      | zeros =>
          cases first with
          | zero => exact sums _ _ _ _
          | infinity | notANumber | finite => exact .same _
  | zeros =>
      cases other with
      | same =>
          cases third with
          | zero => exact sums _ _ _ _
          | infinity | notANumber | finite => exact .same _
      | zeros => exact sums _ _ _ _

/-- Packing keeps what makes numbers equal, NaN excepted. -/
theorem beq_pack {one other : Float} (same : SameNumber first second)
    (packed : one.toModel = Float.Model.pack first)
    (otherPacked : other.toModel = Float.Model.pack second)
    (number : one.isNaN = false) : one == other := by
  cases same with
  | same =>
      have self := beq_self number
      rw [beq_eq_compare] at self ⊢
      rwa [otherPacked, ← packed]
  | zeros sign against =>
      rw [beq_eq_compare, packed, otherPacked]
      cases sign <;> cases against <;> rfl

end SameNumber

/-- What equals something is not NaN. -/
theorem isNaN_of_beq {first second : Float} (equal : first == second) :
    first.isNaN = false := by
  rw [beq_eq_compare, beq_iff_eq] at equal
  unfold Float.Model.compare at equal
  change first.toModel.unpack.isNaN = false
  cases value : first.toModel.unpack with
  | notANumber =>
      rw [value] at equal
      cases equal
  | infinity | zero | finite => rfl

theorem mul_beq {first second third fourth : Float} (one : first == second)
    (other : third == fourth) (finite : first.isFinite = true)
    (also : third.isFinite = true) (number : (first * third).isNaN = false) :
    first * third == second * fourth :=
  ((SameNumber.of_beq one).mul (.of_beq other) finite also).beq_pack rfl rfl
    number

theorem add_beq {first second third fourth : Float} (one : first == second)
    (other : third == fourth) (number : (first + third).isNaN = false) :
    first + third == second + fourth :=
  ((SameNumber.of_beq one).add (.of_beq other)).beq_pack rfl rfl number

end Rulebook
