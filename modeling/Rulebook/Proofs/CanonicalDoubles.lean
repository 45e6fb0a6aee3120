import Mathlib
import Rulebook.Proofs.Products

/-!
# Canonical doubles

A number has many unpacked forms, since its mantissa may be doubled while its
exponent goes down by one.  Unpacking a double gives the form with the least
exponent that a mantissa of 53 bits allows.  Packing and unpacking bring such a form
back unless it is too large, and rounding arrives at it.

A number that is not zero is rounded to zero only if it is smaller than the least
double, so a sum of doubles is the negative zero only if both of them are.
-/

open Float.Model

namespace Rulebook

/-! ## Packing and unpacking -/

theorem toNat_one_append (fraction : BitVec 52) :
    (1#1 ++ fraction).toNat = 2 ^ 52 + fraction.toNat := by
  rw [BitVec.toNat_append, ← Nat.shiftLeft_add_eq_or_of_lt fraction.isLt,
    Nat.shiftLeft_eq]
  rfl

/-- The form in which doubles are unpacked: the mantissa has 53 bits, or fewer where
the exponent is the least one. -/
def Canonical : UnpackedFloat → Prop
  | .finite _ mantissa exponent _ =>
      mantissa < 2 ^ 53 ∧ -1074 ≤ exponent ∧
        (2 ^ 52 ≤ mantissa ∨ exponent = -1074)
  | _ => True

theorem canonical_unpack (bits : BitVec 64) :
    Canonical (UnpackedFloat.unpack .binary64 bits) := by
  have bias : Format.exponentBias .binary64 = 1023 := rfl
  have fraction : (@UnpackedFloat.unpackMantissa .binary64 bits).toNat < 2 ^ 52 :=
    BitVec.isLt _
  unfold UnpackedFloat.unpack
  dsimp only
  rw [bias]
  by_cases greatest : @UnpackedFloat.unpackExponent .binary64 bits = -1#11
  · rw [if_pos greatest]
    by_cases zero : @UnpackedFloat.unpackMantissa .binary64 bits = 0#52
    · rw [if_pos zero]
      trivial
    · rw [if_neg zero]
      trivial
  · rw [if_neg greatest]
    by_cases least : @UnpackedFloat.unpackExponent .binary64 bits = 0#11
    · rw [if_pos least]
      by_cases zero : @UnpackedFloat.unpackMantissa .binary64 bits = 0#52
      · rw [dif_pos zero]
        trivial
      · have none : (@UnpackedFloat.unpackExponent .binary64 bits).toNat = 0 :=
          congrArg BitVec.toNat least
        rw [dif_neg zero]
        exact ⟨by omega, by omega, .inr (by omega)⟩
    · have some : (@UnpackedFloat.unpackExponent .binary64 bits).toNat ≠ 0 :=
        fun same => least (BitVec.eq_of_toNat_eq same)
      have whole :=
        toNat_one_append (@UnpackedFloat.unpackMantissa .binary64 bits)
      rw [if_neg least]
      exact ⟨by omega, by omega, .inl (by omega)⟩

theorem Canonical.neg {value : UnpackedFloat} (canonical : Canonical value) :
    Canonical value.neg := by
  cases value <;> exact canonical

theorem Fits.neg {value : UnpackedFloat} (fits : Fits value) : Fits value.neg := by
  cases value <;> exact fits

theorem fits_unpack {bits : BitVec 64}
    (finite : (UnpackedFloat.unpack .binary64 bits).isFinite = true) :
    Fits (UnpackedFloat.unpack .binary64 bits) := by
  cases value : UnpackedFloat.unpack .binary64 bits with
  | notANumber | infinity =>
      rw [value] at finite
      cases finite
  | zero => trivial
  | finite sign mantissa exponent positive => exact (unpack_finite_le value).2

theorem finite_congr {sign : UnpackedFloat.Sign} {mantissa rest : Nat}
    {exponent other : Int} {positive : 0 < mantissa} {also : 0 < rest}
    (mantissas : mantissa = rest) (exponents : exponent = other) :
    UnpackedFloat.finite sign mantissa exponent positive =
      .finite sign rest other also := by
  subst mantissas exponents
  rfl

theorem unpack_normal (sign : UnpackedFloat.Sign) {exponent : BitVec 11}
    (mantissa : BitVec 52) (notGreatest : exponent ≠ -1#11)
    (notLeast : exponent ≠ 0#11) :
    UnpackedFloat.unpack .binary64
        (UnpackedFloat.packComponents .binary64 sign exponent mantissa) =
      .finite sign (2 ^ 52 + mantissa.toNat) (exponent.toNat - 1075)
        (by omega) := by
  unfold UnpackedFloat.unpack
  dsimp only
  rw [UnpackedFloat.unpackExponent_packComponents, if_neg notGreatest,
    if_neg notLeast, UnpackedFloat.unpackSign_packComponents,
    UnpackedFloat.Sign.ofBitVec_toBitVec]
  refine finite_congr ?_ rfl
  rw [UnpackedFloat.unpackMantissa_packComponents, toNat_one_append]

theorem unpack_subnormal (sign : UnpackedFloat.Sign) {mantissa : BitVec 52}
    (positive : 0 < mantissa.toNat) :
    UnpackedFloat.unpack .binary64
        (UnpackedFloat.packComponents .binary64 sign 0#11 mantissa) =
      .finite sign mantissa.toNat (-1074) positive := by
  have kept : UnpackedFloat.unpackMantissa
      (UnpackedFloat.packComponents .binary64 sign 0#11 mantissa) = mantissa :=
    UnpackedFloat.unpackMantissa_packComponents
  have some : mantissa ≠ 0#52 := by
    rintro rfl
    exact absurd positive (by decide)
  unfold UnpackedFloat.unpack
  dsimp only
  rw [UnpackedFloat.unpackExponent_packComponents, if_neg (by decide), if_pos rfl,
    dif_neg (kept.trans_ne some), UnpackedFloat.unpackSign_packComponents,
    UnpackedFloat.Sign.ofBitVec_toBitVec]
  exact finite_congr (congrArg BitVec.toNat kept) rfl

theorem log2_eq_52 {mantissa : Nat} (large : 2 ^ 52 ≤ mantissa)
    (bits : mantissa < 2 ^ 53) : mantissa.log2 = 52 :=
  (Nat.log2_eq_iff (by omega)).mpr ⟨large, bits⟩

/-- Packing is undone by unpacking. -/
theorem unpack_pack {value : UnpackedFloat} (canonical : Canonical value)
    (fits : Fits value) : (Float.Model.pack value).unpack = value := by
  change UnpackedFloat.unpack .binary64 (UnpackedFloat.pack .binary64 value) = value
  cases value with
  | infinity => cases fits
  | notANumber => cases fits
  | zero sign => cases sign <;> rfl
  | finite sign mantissa exponent positive =>
      obtain ⟨bits, least, normal⟩ := canonical
      change exponent ≤ 971 at fits
      have bias : Format.exponentBias .binary64 = 1023 := rfl
      have width : Format.mantissaBits .binary64 = 53 := rfl
      unfold UnpackedFloat.pack
      dsimp only
      rw [bias, width, if_neg (by omega)]
      rcases Nat.lt_or_ge mantissa (2 ^ 52) with small | large
      · have short : mantissa.log2 < 52 := (Nat.log2_lt positive.ne').mpr small
        have kept : (BitVec.ofNat 52 mantissa).toNat = mantissa := by
          rw [BitVec.toNat_ofNat, Nat.mod_eq_of_lt small]
        rw [if_neg (by omega), unpack_subnormal sign (by omega)]
        exact finite_congr kept (by omega)
      · rw [if_pos (congrArg (· + 1) (log2_eq_52 large bits))]
        have stored : (BitVec.ofNat 11 (exponent + (1023 : Nat) +
            (52 : Nat)).toNat).toNat = (exponent + 1075).toNat := by
          rw [BitVec.toNat_ofNat]
          omega
        rw [unpack_normal]
        · refine finite_congr ?_ ?_
          · rw [BitVec.toNat_ofNat]
            omega
          · omega
        · intro same
          rw [same] at stored
          have greatest : (-1#11).toNat = 2047 := by decide
          omega
        · intro same
          rw [same] at stored
          have zero : (0#11).toNat = 0 := by decide
          omega

/-- What is too large is packed as infinity. -/
theorem pack_of_large {sign : UnpackedFloat.Sign} {mantissa : Nat} {exponent : Int}
    {positive : 0 < mantissa} (large : 971 < exponent) :
    (Float.Model.pack (.finite sign mantissa exponent positive)).unpack =
      .infinity sign := by
  change UnpackedFloat.unpack .binary64 (UnpackedFloat.pack .binary64
    (.finite sign mantissa exponent positive)) = .infinity sign
  have bias : Format.exponentBias .binary64 = 1023 := rfl
  unfold UnpackedFloat.pack
  dsimp only
  rw [bias, if_pos (by omega)]
  cases sign <;> rfl

/-! ## Rounding -/

/-- What is left of a mantissa that is shifted and rounded. -/
def rounded (mantissa count : Nat) : Nat :=
  ((⟨mantissa, false, false⟩ : UnpackedFloat.ExtendedMantissa) >>>
    count).roundedMantissa

theorem le_rounded {mantissa count bound : Nat}
    (within : bound * 2 ^ count ≤ mantissa) : bound ≤ rounded mantissa count := by
  -- Rounding never goes below what the shift leaves.
  have down (extended : UnpackedFloat.ExtendedMantissa) :
      extended.mantissa ≤ extended.roundedMantissa := by
    obtain ⟨kept, half, rest⟩ := extended
    cases half <;> cases rest <;>
      simp only [UnpackedFloat.ExtendedMantissa.roundedMantissa,
        UnpackedFloat.ExtendedMantissa.accuracy,
        UnpackedFloat.Accuracy.roundToNearestEven] <;> omega
  calc
    bound ≤ mantissa / 2 ^ count :=
      (Nat.le_div_iff_mul_le (Nat.two_pow_pos count)).mpr within
    _ = _ := (shiftRight_mantissa ⟨mantissa, false, false⟩ count).symm
    _ ≤ rounded mantissa count := down _

/-- A mantissa is shifted by the given number of places for its exponent to become
that of its canonical form. -/
def ShiftsBy (mantissa : Nat) (exponent : Int) (count : Nat) : Prop :=
  Format.targetExponent .binary64 (totalExponent mantissa exponent) =
    exponent + count

namespace ShiftsBy

variable {mantissa count : Nat} {exponent : Int} {sign : UnpackedFloat.Sign}

theorem iff_max : ShiftsBy mantissa exponent count ↔
    max (mantissa.log2 + 1 + exponent - 53) (-1074) = exponent + count :=
  Iff.rfl

theorem shift (shifts : ShiftsBy mantissa exponent count) :
    UnpackedFloat.shiftToTargetExponent .binary64 mantissa exponent .exact =
      ((⟨mantissa, false, false⟩ : UnpackedFloat.ExtendedMantissa) >>> count,
        exponent + count) := by
  have places : (exponent + count - exponent).toNat = count := by omega
  unfold UnpackedFloat.shiftToTargetExponent
  dsimp only
  rw [shifts, UnpackedFloat.shiftToExponent, places]
  rfl

theorem of_canonical {positive : 0 < mantissa}
    (canonical : Canonical (.finite sign mantissa exponent positive)) :
    ShiftsBy mantissa exponent 0 := by
  obtain ⟨bits, least, normal⟩ := canonical
  rw [iff_max]
  have short : mantissa.log2 < 53 := (Nat.log2_lt positive.ne').mpr bits
  rcases normal with large | subnormal
  · rw [log2_eq_52 large bits]
    omega
  · omega

theorem least_le (shifts : ShiftsBy mantissa exponent count) :
    -1074 ≤ exponent + count := by
  rw [iff_max] at shifts
  omega

theorem rounded_le (positive : 0 < mantissa)
    (shifts : ShiftsBy mantissa exponent count) : rounded mantissa count ≤ 2 ^ 53 := by
  rw [iff_max] at shifts
  refine roundedMantissa_le (Nat.le_of_lt ?_)
  rw [← Nat.pow_add, ← Nat.log2_lt positive.ne']
  omega

theorem le_rounded (positive : 0 < mantissa)
    (shifts : ShiftsBy mantissa exponent count) :
    2 ^ 52 ≤ rounded mantissa count ∨ exponent + count = -1074 := by
  rw [iff_max] at shifts
  by_cases least : exponent + count = -1074
  · exact .inr least
  · refine .inl (Rulebook.le_rounded ?_)
    rw [← Nat.pow_add, ← Nat.le_log2 positive.ne']
    omega

theorem round_of_settled (shifts : ShiftsBy mantissa exponent count)
    {rest : Nat} (further : ShiftsBy (rounded mantissa count) (exponent + count) rest)
    (some : 0 < rounded mantissa count / 2 ^ rest) :
    UnpackedFloat.roundWithAccuracy .binary64 sign mantissa exponent .exact =
      .finite sign (rounded mantissa count / 2 ^ rest) (exponent + count + rest)
        some := by
  have left := shiftRight_mantissa ⟨rounded mantissa count, false, false⟩ rest
  have settled := further.shift
  unfold rounded at settled
  unfold UnpackedFloat.roundWithAccuracy
  dsimp only
  rw [shifts.shift]
  dsimp only
  rw [settled]
  exact (dif_neg (left.trans_ne some.ne')).trans (finite_congr left rfl)

/-- The rounded mantissa may have 53 bits and one more, in which case it is halved
and nothing is lost. -/
theorem round_cases (shifts : ShiftsBy mantissa exponent count)
    (positive : 0 < mantissa) (some : 0 < rounded mantissa count) :
    (rounded mantissa count < 2 ^ 53 ∧
      UnpackedFloat.roundWithAccuracy .binary64 sign mantissa exponent .exact =
        .finite sign (rounded mantissa count) (exponent + count) some) ∨
    rounded mantissa count = 2 ^ 53 ∧
      UnpackedFloat.roundWithAccuracy .binary64 sign mantissa exponent .exact =
        .finite sign (2 ^ 52) (exponent + count + 1) (by decide) := by
  have least := shifts.least_le
  rcases (shifts.rounded_le positive).lt_or_eq with bits | full
  · have canonical : Canonical
        (.finite sign (rounded mantissa count) (exponent + count) some) :=
      ⟨bits, least, shifts.le_rounded positive⟩
    have settled := of_canonical canonical
    refine .inl ⟨bits, ?_⟩
    rw [round_of_settled shifts settled ((Nat.div_one _).symm ▸ some)]
    exact finite_congr (Nat.div_one _) (by omega)
  · have settled : ShiftsBy (rounded mantissa count) (exponent + count) 1 := by
      rw [full, iff_max, Nat.log2_two_pow]
      omega
    refine .inr ⟨full, ?_⟩
    rw [round_of_settled shifts settled (by omega)]
    exact finite_congr (by omega) rfl

/-- What is not smaller than the least double is not rounded to zero. -/
theorem round_finite (shifts : ShiftsBy mantissa exponent count)
    (positive : 0 < mantissa) (some : 0 < rounded mantissa count) :
    ∃ rest reach also,
      UnpackedFloat.roundWithAccuracy .binary64 sign mantissa exponent .exact =
          .finite sign rest reach also ∧
        Canonical (.finite sign rest reach also) := by
  have least := shifts.least_le
  rcases shifts.round_cases positive some with ⟨bits, same⟩ | ⟨_, same⟩
  · exact ⟨_, _, _, same, bits, least, shifts.le_rounded positive⟩
  · exact ⟨_, _, _, same, by decide, by omega, .inl le_rfl⟩

end ShiftsBy

/-! ## Sums -/

theorem log2_shiftLeft {mantissa : Nat} (positive : 0 < mantissa) (places : Nat) :
    (mantissa <<< places).log2 = mantissa.log2 + places := by
  have some : mantissa <<< places ≠ 0 := by
    rw [Nat.shiftLeft_eq]
    exact (Nat.mul_pos positive (Nat.two_pow_pos places)).ne'
  have inside := (Nat.log2_eq_iff positive.ne').mp rfl
  rw [Nat.log2_eq_iff some, Nat.shiftLeft_eq, Nat.pow_add,
    Nat.add_right_comm, Nat.pow_add]
  exact ⟨Nat.mul_le_mul_right _ inside.1,
    Nat.mul_lt_mul_of_pos_right inside.2 (Nat.two_pow_pos places)⟩

/-- A multiple of the least double is not rounded to zero. -/
theorem round_multiple {mantissa : Nat} {exponent : Int}
    (sign : UnpackedFloat.Sign) (positive : 0 < mantissa)
    (least : -1074 ≤ exponent) :
    ∃ rest reach also,
      UnpackedFloat.round .binary64 sign mantissa exponent =
          .finite sign rest reach also ∧
        Canonical (.finite sign rest reach also) := by
  obtain ⟨target, reached⟩ : ∃ target, Format.targetExponent .binary64
      (totalExponent mantissa exponent) = target :=
    ⟨_, rfl⟩
  have maximum : max (mantissa.log2 + 1 + exponent - 53) (-1074) = target := reached
  unfold UnpackedFloat.round UnpackedFloat.decreaseExponent
  dsimp only
  rw [reached]
  obtain ⟨places, exact⟩ : ∃ places, (exponent - target).toNat = places := ⟨_, rfl⟩
  rw [exact]
  have more : 0 < mantissa <<< places := by
    rw [Nat.shiftLeft_eq]
    exact Nat.mul_pos positive (Nat.two_pow_pos places)
  have shifts : ShiftsBy (mantissa <<< places) (exponent - places)
      (target - (exponent - places)).toNat := by
    rw [ShiftsBy.iff_max, log2_shiftLeft positive]
    omega
  refine shifts.round_finite more ?_
  rcases shifts.le_rounded more with large | lowest
  · omega
  · have none : (target - (exponent - places)).toNat = 0 := by omega
    rw [none]
    exact more

theorem normalize_apart (mantissa : Int) {exponent : Int}
    (least : -1074 ≤ exponent) :
    Canonical (UnpackedFloat.normalize .binary64 mantissa exponent .positive) ∧
      UnpackedFloat.normalize .binary64 mantissa exponent .positive ≠
        .zero .negative := by
  have finite (sign : UnpackedFloat.Sign) {rest : Nat} (positive : 0 < rest) :
      Canonical (UnpackedFloat.round .binary64 sign rest exponent) ∧
        UnpackedFloat.round .binary64 sign rest exponent ≠ .zero .negative := by
    obtain ⟨_, _, _, same, canonical⟩ := round_multiple sign positive least
    rw [same]
    exact ⟨canonical, nofun⟩
  unfold UnpackedFloat.normalize
  split
  · next below => exact finite _ (by rw [compare_lt_iff_lt] at below; omega)
  · exact ⟨trivial, nofun⟩
  · next above => exact finite _ (by rw [compare_gt_iff_gt] at above; omega)

/-- A sum is the negative zero only if both of its parts are. -/
theorem add_apart {first second : UnpackedFloat}
    (one : Canonical first) (other : Canonical second)
    (apart : first ≠ .zero .negative) :
    Canonical (UnpackedFloat.add .binary64 first second) ∧
      UnpackedFloat.add .binary64 first second ≠ .zero .negative := by
  cases first with
  | notANumber => exact ⟨trivial, nofun⟩
  | infinity sign =>
      cases second with
      | infinity against => cases sign <;> cases against <;> exact ⟨trivial, nofun⟩
      | notANumber | zero | finite => exact ⟨trivial, nofun⟩
  | zero sign =>
      cases sign with
      | negative => exact absurd rfl apart
      | positive =>
          cases second with
          | zero against => cases against <;> exact ⟨trivial, nofun⟩
          | notANumber | infinity | finite => exact ⟨other, nofun⟩
  | finite sign mantissa exponent positive =>
      cases second with
      | notANumber | infinity => exact ⟨trivial, nofun⟩
      | zero => exact ⟨one, nofun⟩
      | finite against rest reach also =>
          have least : -1074 ≤ min exponent reach := by
            have low := one.2.1
            have lower := other.2.1
            omega
          exact normalize_apart _ least

theorem pack_apart {value : UnpackedFloat} (canonical : Canonical value)
    (apart : value ≠ .zero .negative) :
    (Float.Model.pack value).unpack ≠ .zero .negative := by
  cases value with
  | notANumber => exact ne_of_apply_ne UnpackedFloat.isNaN (by decide)
  | infinity sign =>
      cases sign <;> exact ne_of_apply_ne UnpackedFloat.isInf (by decide)
  | zero sign =>
      rw [unpack_pack canonical trivial]
      exact apart
  | finite sign mantissa exponent positive =>
      rcases lt_or_ge 971 exponent with large | fits
      · rw [pack_of_large large]
        nofun
      · rw [unpack_pack canonical fits]
        exact apart

/-- Only the negative zero is unpacked as such. -/
theorem eq_negZero_iff {number : Float} :
    number = -0.0 ↔ number.toModel.unpack = .zero .negative := by
  rw [← Float.toBits_inj, ← UInt64.toBitVec_inj]
  exact (UnpackedFloat.unpack_eq_zero_iff_of_valid number.toModel.valid).symm

theorem add_ne_negZero {first second : Float} (apart : first ≠ -0.0) :
    first + second ≠ -0.0 := by
  rw [Ne, eq_negZero_iff] at apart ⊢
  obtain ⟨canonical, sum⟩ :=
    add_apart (canonical_unpack _) (canonical_unpack second.toModel.toBits.toBitVec)
      apart
  exact pack_apart canonical sum

end Rulebook
