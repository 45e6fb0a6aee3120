import Rulebook.Proofs.RealValues

/-!
# The double nearest to an integer

An integer becomes the double nearest to it, and the one with an even mantissa if two
doubles are equally near.  The bits that a mantissa loses are kept track of by a half
bit and a rest bit, which is enough to find the nearest multiple of the last place.
A double that is not such a multiple is smaller than every number that is rounded at
this place, and so is not nearer than the least multiple of 53 bits.
-/

open Float.Model

namespace Rulebook

/-! ## The nearest multiple -/

/-- The half bit is the greatest of the bits that are lost, and the rest bit tells
whether another one is set. -/
theorem shiftRight_succ (mantissa count : Nat) :
    (⟨mantissa, false, false⟩ : UnpackedFloat.ExtendedMantissa) >>> (count + 1) =
      ⟨mantissa / 2 ^ (count + 1), mantissa / 2 ^ count % 2 != 0,
        mantissa % 2 ^ count != 0⟩ := by
  induction count with
  | zero =>
      rw [Nat.pow_zero, Nat.mod_one, Nat.div_one, Nat.pow_one]
      rfl
  | succ count ih =>
      have split : mantissa % 2 ^ (count + 1) =
          mantissa % 2 ^ count + 2 ^ count * (mantissa / 2 ^ count % 2) :=
        Nat.mod_pow_succ
      have place : 0 < 2 ^ count := Nat.two_pow_pos count
      change UnpackedFloat.ExtendedMantissa.shiftRightOne
        ((⟨mantissa, false, false⟩ : UnpackedFloat.ExtendedMantissa) >>>
          (count + 1)) = _
      rw [ih, UnpackedFloat.ExtendedMantissa.shiftRightOne,
        Nat.div_div_eq_div_mul, ← Nat.pow_succ]
      congr 1
      rw [split, Bool.eq_iff_iff, Bool.or_eq_true, bne_iff_ne, bne_iff_ne, bne_iff_ne]
      rcases Nat.mod_two_eq_zero_or_one (mantissa / 2 ^ count) with unset | set
      · rw [unset]
        omega
      · rw [set]
        omega

/-- A mantissa that is rounded is off by half a place at most, and it becomes even if
it is off by so much. -/
theorem rounded_near (mantissa count : Nat) :
    2 * mantissa ≤ (2 * rounded mantissa count + 1) * 2 ^ count ∧
      2 * rounded mantissa count * 2 ^ count ≤ 2 * mantissa + 2 ^ count ∧
      (2 * mantissa = (2 * rounded mantissa count + 1) * 2 ^ count ∨
        2 * rounded mantissa count * 2 ^ count = 2 * mantissa + 2 ^ count →
          Even (rounded mantissa count)) := by
  cases count with
  | zero =>
      have same : rounded mantissa 0 = mantissa := rfl
      rw [same]
      omega
  | succ count =>
      have place : 0 < 2 ^ count := Nat.two_pow_pos count
      have lost : mantissa % 2 ^ count < 2 ^ count := Nat.mod_lt _ place
      have whole : mantissa = 2 ^ (count + 1) * (mantissa / 2 ^ (count + 1)) +
          (mantissa % 2 ^ count + 2 ^ count * (mantissa / 2 ^ count % 2)) := by
        rw [← Nat.mod_pow_succ, Nat.div_add_mod]
      rw [rounded, shiftRight_succ]
      generalize mantissa / 2 ^ (count + 1) = kept at *
      generalize mantissa % 2 ^ count = rest at *
      -- The products of what is kept with a place are linear in one of them.
      have below (number : Nat) : (2 * number + 1) * 2 ^ (count + 1) =
          4 * (number * 2 ^ count) + 2 * 2 ^ count := by ring
      have above (number : Nat) : 2 * number * 2 ^ (count + 1) =
          4 * (number * 2 ^ count) := by ring
      have start : 2 ^ (count + 1) * kept = 2 * (kept * 2 ^ count) := by ring
      have next : (kept + 1) * 2 ^ count = kept * 2 ^ count + 2 ^ count := by ring
      rw [start] at whole
      simp only [below, above]
      rcases Nat.mod_two_eq_zero_or_one (mantissa / 2 ^ count) with unset | set
      · have down : (⟨kept, 0 != 0, rest != 0⟩ :
            UnpackedFloat.ExtendedMantissa).roundedMantissa = kept := by
          cases rest <;> rfl
        rw [unset] at whole ⊢
        rw [down]
        omega
      · rw [set] at whole ⊢
        rcases Nat.eq_zero_or_pos rest with rfl | more
        · have tie : (⟨kept, 1 != 0, 0 != 0⟩ :
              UnpackedFloat.ExtendedMantissa).roundedMantissa =
                kept + kept % 2 :=
            rfl
          rw [tie]
          rcases Nat.mod_two_eq_zero_or_one kept with even | odd
          · rw [even, Nat.add_zero]
            exact ⟨by omega, by omega, fun _ => Nat.even_iff.mpr even⟩
          · rw [odd, next]
            exact ⟨by omega, by omega, fun _ => Nat.even_iff.mpr (by omega)⟩
        · have up : (⟨kept, 1 != 0, rest != 0⟩ :
              UnpackedFloat.ExtendedMantissa).roundedMantissa = kept + 1 := by
            rw [bne_iff_ne.mpr more.ne']
            rfl
          rw [up, next]
          omega

/-- A multiple of a unit that is as near to a number as any, and an even one if it is
half a unit off. -/
structure NearestMultiple (number unit : ℝ) (kept : Int) : Prop where
  near : |kept * unit - number| ≤ unit / 2
  even : |kept * unit - number| = unit / 2 → Even kept

theorem NearestMultiple.half_le {number unit : ℝ} {kept : Int}
    (nearest : NearestMultiple number unit kept) (positive : 0 < unit) {other : Int}
    (different : other ≠ kept) : unit / 2 ≤ |other * unit - number| := by
  have apart : unit ≤ |other * unit - kept * unit| := by
    have one : (1 : ℝ) ≤ |((other - kept : Int) : ℝ)| := by
      exact_mod_cast Int.one_le_abs (sub_ne_zero.mpr different)
    calc
      unit = 1 * unit := (one_mul unit).symm
      _ ≤ |((other - kept : Int) : ℝ)| * unit := by gcongr
      _ = |other * unit - kept * unit| := by
        rw [← sub_mul, abs_mul, abs_of_pos positive, Int.cast_sub]
  have around := abs_sub_le (other * unit) number (kept * unit)
  have near := nearest.near
  rw [abs_sub_comm] at near
  linarith

theorem nearestMultiple_rounded (mantissa count : Nat) (exponent : Int) :
    NearestMultiple (mantissa * 2 ^ exponent) (2 ^ (exponent + count))
      (rounded mantissa count) := by
  obtain ⟨low, high, tie⟩ := rounded_near mantissa count
  have scale : (0 : ℝ) < 2 ^ exponent := by positivity
  have unit : (2 : ℝ) ^ (exponent + count) = 2 ^ exponent * 2 ^ count := by
    rw [zpow_add₀ two_ne_zero, zpow_natCast]
  have low : (2 * mantissa : ℝ) ≤ (2 * rounded mantissa count + 1) * 2 ^ count := by
    exact_mod_cast low
  have high : (2 * rounded mantissa count * 2 ^ count : ℝ) ≤
      2 * mantissa + 2 ^ count := by
    exact_mod_cast high
  have off : ((rounded mantissa count : Int) : ℝ) * 2 ^ (exponent + count) -
      mantissa * 2 ^ exponent =
        2 ^ exponent * (rounded mantissa count * 2 ^ count - mantissa) := by
    rw [unit, Int.cast_natCast]
    ring
  have half : (2 : ℝ) ^ (exponent + count) / 2 = 2 ^ exponent * (2 ^ count / 2) := by
    rw [unit]
    ring
  constructor
  · rw [off, half, abs_mul, abs_of_pos scale]
    gcongr
    rw [abs_le]
    constructor <;> linarith
  · rw [off, half, abs_mul, abs_of_pos scale]
    intro same
    have same := mul_left_cancel₀ scale.ne' same
    rw [Int.even_coe_nat]
    apply tie
    rcases abs_eq (by positivity) |>.mp same with above | below
    · right
      have reached : (2 * rounded mantissa count * 2 ^ count : ℝ) =
          2 * mantissa + 2 ^ count := by linarith
      exact_mod_cast reached
    · left
      have reached : (2 * mantissa : ℝ) =
          (2 * rounded mantissa count + 1) * 2 ^ count := by linarith
      exact_mod_cast reached

/-! ## The nearest double -/

/-- A form that wins where two doubles are equally near. -/
def EvenMantissa : UnpackedFloat → Prop
  | .finite _ mantissa _ _ => Even mantissa
  | _ => True

/-- A finite double that is as near to an integer as any other, and has an even
mantissa if another one is equally near. -/
structure Nearest (integer : Int) (number : Float) : Prop where
  finite : number.isFinite = true
  closest : ∀ other : Float, other.isFinite = true →
    |realOf number - integer| ≤ |realOf other - integer|
  tieToEven : ∀ other : Float, other.isFinite = true →
    |realOf number - integer| = |realOf other - integer| →
      realOf other = realOf number ∨ EvenMantissa number.toModel.unpack

theorem unpackedReal_abs (sign : UnpackedFloat.Sign) {mantissa : Nat}
    {exponent : Int} (positive : 0 < mantissa) :
    |unpackedReal (.finite sign mantissa exponent positive)| =
      mantissa * 2 ^ exponent := by
  have scale : (0 : ℝ) < 2 ^ exponent := by positivity
  cases sign <;>
    simp [unpackedReal, UnpackedFloat.Sign.apply, abs_mul, abs_of_pos scale]

/-- What is not a multiple of a place is smaller than what fills all bits above the
place. -/
theorem multiple_or_small {value : UnpackedFloat} (canonical : Canonical value)
    (finite : value.isFinite = true) (place : Int) :
    (∃ multiple : Int, unpackedReal value = multiple * 2 ^ place) ∨
      |unpackedReal value| < 2 ^ 52 * 2 ^ place := by
  cases value with
  | notANumber => cases finite
  | infinity => cases finite
  | zero sign => exact .inl ⟨0, by simp [unpackedReal]⟩
  | finite sign mantissa exponent positive =>
      rcases lt_or_ge exponent place with lower | reached
      · refine .inr ?_
        have short : (mantissa : ℝ) < 2 ^ 53 := by exact_mod_cast canonical.1
        rw [unpackedReal_abs]
        calc
          (mantissa : ℝ) * 2 ^ exponent < 2 ^ 53 * 2 ^ exponent := by gcongr
          _ = 2 ^ 52 * 2 ^ (exponent + 1) := by
            rw [zpow_add_one₀ two_ne_zero]
            ring
          _ ≤ 2 ^ 52 * 2 ^ place := by
            gcongr
            · exact one_le_two
            · omega
      · obtain ⟨above, rfl⟩ := Int.exists_add_of_le reached
        refine .inl ⟨sign.apply mantissa * 2 ^ above, ?_⟩
        rw [unpackedReal, zpow_add₀ two_ne_zero, zpow_natCast]
        push_cast
        ring

theorem Nearest.of_real_eq {integer : Int} {number : Float}
    (finite : number.isFinite = true) (exact : realOf number = integer) :
    Nearest integer number := by
  refine ⟨finite, fun other _ => ?_, fun other _ same => .inl ?_⟩
  · rw [exact, sub_self, abs_zero]
    exact abs_nonneg _
  · rw [exact, sub_self, abs_zero, eq_comm, abs_eq_zero, sub_eq_zero] at same
    rw [same, exact]

/-- The nearest multiple of the last of 53 places is the nearest double. -/
theorem Nearest.of_multiple {integer place kept : Int} {number : Float}
    (finite : number.isFinite = true) (large : 2 ^ 52 * 2 ^ place ≤ (integer : ℝ))
    (nearest : NearestMultiple integer (2 ^ place) kept)
    (exact : realOf number = kept * 2 ^ place)
    (even : Even kept → EvenMantissa number.toModel.unpack) :
    Nearest integer number := by
  have unit : (0 : ℝ) < 2 ^ place := by positivity
  -- Another double is the same one, or half a place off at least, or farther off than
  -- the least multiple of 53 bits.
  have others (other : Float) (also : other.isFinite = true) :
      realOf other = realOf number ∨
        2 ^ place / 2 ≤ |realOf other - integer| ∨
        |realOf number - integer| < |realOf other - integer| := by
    rcases multiple_or_small (canonical_unpack other.toModel.toBits.toBitVec) also
      place with ⟨multiple, same⟩ | small
    · by_cases different : multiple = kept
      · subst different
        exact .inl (same.trans exact.symm)
      · have half := nearest.half_le unit different
        rw [← same] at half
        exact .inr (.inl half)
    · refine .inr (.inr ?_)
      have below : realOf other < 2 ^ 52 * 2 ^ place := (abs_lt.mp small).2
      calc
        |realOf number - integer| ≤ |2 ^ 52 * 2 ^ place - (integer : ℝ)| := by
          have least : ((2 ^ 52 : Int) : ℝ) = 2 ^ 52 := by norm_num
          rw [exact, ← least]
          by_cases same : 2 ^ 52 = kept
          · rw [same]
          · exact nearest.near.trans (nearest.half_le unit same)
        _ = integer - 2 ^ 52 * 2 ^ place := by
          rw [abs_sub_comm, abs_of_nonneg (sub_nonneg.mpr large)]
        _ < integer - realOf other := by gcongr
        _ ≤ |realOf other - integer| := by
          rw [abs_sub_comm]
          exact le_abs_self _
  refine ⟨finite, fun other also => ?_, fun other also same => ?_⟩
  · rw [exact]
    rcases others other also with same | half | farther
    · rw [same, exact]
    · exact nearest.near.trans half
    · rw [← exact]
      exact farther.le
  · rcases others other also with same | half | farther
    · exact .inl same
    · refine .inr (even (nearest.even ?_))
      rw [← exact]
      have near := nearest.near
      rw [← exact] at near
      exact le_antisymm near (same ▸ half)
    · exact absurd same farther.ne

theorem unpack_neg {number : Float} (finite : number.isFinite = true) :
    (-number).toModel.unpack = number.toModel.unpack.neg :=
  unpack_pack (canonical_unpack _).neg (fits_unpack finite).neg

theorem isFinite_neg {number : Float} (finite : number.isFinite = true) :
    (-number).isFinite = true := by
  change (-number).toModel.unpack.isFinite = true
  change number.toModel.unpack.isFinite = true at finite
  rw [unpack_neg finite]
  cases value : number.toModel.unpack with
  | notANumber | infinity =>
      rw [value] at finite
      cases finite
  | zero | finite => rfl

theorem realOf_neg {number : Float} (finite : number.isFinite = true) :
    realOf (-number) = -realOf number := by
  rw [realOf, unpack_neg finite, unpackedReal_neg]
  rfl

theorem abs_neg_sub {number : Float} (finite : number.isFinite = true)
    (integer : Int) :
    |realOf (-number) - integer| = |realOf number - (-integer : Int)| := by
  rw [realOf_neg finite, Int.cast_neg, ← abs_neg]
  congr 1
  ring

theorem EvenMantissa.neg {value : UnpackedFloat} (even : EvenMantissa value) :
    EvenMantissa value.neg := by
  cases value <;> exact even

/-- The opposite of the nearest double is nearest to the opposite integer. -/
theorem Nearest.neg {integer : Int} {number : Float}
    (nearest : Nearest integer number) : Nearest (-integer) (-number) := by
  have own : |realOf (-number) - (-integer : Int)| = |realOf number - integer| := by
    rw [abs_neg_sub nearest.finite, neg_neg]
  refine ⟨isFinite_neg nearest.finite, fun other also => ?_,
    fun other also same => ?_⟩
  · rw [own, ← abs_neg_sub also]
    exact nearest.closest _ (isFinite_neg also)
  · rw [own, ← abs_neg_sub also] at same
    refine (nearest.tieToEven _ (isFinite_neg also) same).imp ?_ ?_
    · intro equal
      rw [realOf_neg nearest.finite, ← equal, realOf_neg also, neg_neg]
    · intro even
      rw [unpack_neg nearest.finite]
      exact even.neg

/-! ## Integers as doubles -/

/-- Rounding a form that is canonical up to its scale gives the canonical form. -/
theorem round_scaled {sign : UnpackedFloat.Sign} {mantissa : Nat} {exponent : Int}
    {positive : 0 < mantissa}
    (canonical : Canonical (.finite sign mantissa exponent positive)) (count : Nat) :
    UnpackedFloat.roundWithAccuracy .binary64 sign (mantissa * 2 ^ count)
        (exponent - count) .exact =
      .finite sign mantissa exponent positive := by
  have shifts : ShiftsBy (mantissa * 2 ^ count) (exponent - count) count := by
    have unscaled := ShiftsBy.iff_max.mp (ShiftsBy.of_canonical canonical)
    rw [ShiftsBy.iff_max, ← Nat.shiftLeft_eq, log2_shiftLeft positive]
    omega
  have kept : rounded (mantissa * 2 ^ count) count = mantissa := by
    rw [rounded, shiftRight_exact]
    rfl
  have more : 0 < mantissa * 2 ^ count :=
    Nat.mul_pos positive (Nat.two_pow_pos count)
  rcases shifts.round_cases more (positive.trans_eq kept.symm) with ⟨_, same⟩ | ⟨full, _⟩
  · rw [same]
    exact finite_congr kept (by omega)
  · rw [kept] at full
    exact absurd full canonical.1.ne

section Short

variable {integer places : Nat}

/-- An integer of few bits, filled up to 53 bits. -/
theorem canonical_filled (positive : 0 < integer)
    (filled : integer.log2 + places = 52) (also : 0 < integer * 2 ^ places) :
    Canonical (.finite .positive (integer * 2 ^ places) (-places) also) := by
  have bits := (Nat.log2_eq_iff also.ne').mp
    (by rw [← Nat.shiftLeft_eq, log2_shiftLeft positive, filled])
  exact ⟨bits.2, by omega, .inl bits.1⟩

theorem round_filled (positive : 0 < integer)
    (filled : integer.log2 + places = 52) (also : 0 < integer * 2 ^ places) :
    UnpackedFloat.round .binary64 .positive integer 0 =
      .finite .positive (integer * 2 ^ places) (-places) also := by
  have target : Format.targetExponent .binary64 (totalExponent integer 0) =
      -places := by
    change max ((integer.log2 : Int) + 1 + 0 - 53) (-1074) = -places
    omega
  have shift : (0 - (-places : Int)).toNat = places := by omega
  have settled := round_scaled (canonical_filled positive filled also) 0
  rw [Nat.pow_zero, Nat.mul_one] at settled
  unfold UnpackedFloat.round UnpackedFloat.decreaseExponent
  dsimp only
  rw [target, shift, Nat.shiftLeft_eq, zero_sub]
  exact (congrArg (UnpackedFloat.roundWithAccuracy .binary64 .positive _ · .exact)
    (by omega)).trans settled

theorem unpack_ofNat_short (positive : 0 < integer)
    (filled : integer.log2 + places = 52) (also : 0 < integer * 2 ^ places) :
    (Float.ofNat integer).toModel.unpack =
      .finite .positive (integer * 2 ^ places) (-places) also := by
  have short : integer < 2 ^ 53 := (Nat.log2_lt positive.ne').mp (by omega)
  have canonical := canonical_filled positive filled also
  have fits : Fits (.finite .positive (integer * 2 ^ places) (-places) also) := by
    change (-places : Int) ≤ 971
    omega
  have fast : Float.ofNat integer =
      integer.toUInt64.toFloat * Float.ofBits 0x3FF0000000000000 := by
    change Float.ofScientific integer false 0 = _
    rw [Float.ofScientific, dif_pos ⟨short, by decide⟩]
    rfl
  have whole : integer.toUInt64.toNat = integer :=
    Nat.mod_eq_of_lt (short.trans (by decide))
  have above : compare (integer : Int) 0 = .gt :=
    compare_gt_iff_gt.mpr (by omega)
  have word : integer.toUInt64.toFloat.toModel.unpack =
      .finite .positive (integer * 2 ^ places) (-places) also := by
    change (Float.Model.pack
      (UnpackedFloat.ofNat .binary64 integer.toUInt64.toNat)).unpack = _
    rw [whole, UnpackedFloat.ofNat, UnpackedFloat.ofInt, UnpackedFloat.normalize,
      above]
    exact (congrArg (fun value => (Float.Model.pack value).unpack)
      (round_filled positive filled also)).trans (unpack_pack canonical fits)
  have one : (Float.ofBits 0x3FF0000000000000).toModel.unpack =
      .finite .positive (2 ^ 52) (-52) (by decide) :=
    rfl
  rw [fast]
  change (Float.Model.pack (UnpackedFloat.mul .binary64
    integer.toUInt64.toFloat.toModel.unpack _)).unpack = _
  rw [word, one]
  exact (congrArg (fun value => (Float.Model.pack value).unpack)
    (round_scaled canonical 52)).trans (unpack_pack canonical fits)

end Short

theorem ofNat_exact {integer : Nat} (short : integer < 2 ^ 53) :
    (Float.ofNat integer).isFinite = true ∧ realOf (Float.ofNat integer) = integer := by
  rcases Nat.eq_zero_or_pos integer with rfl | positive
  · have zero : (Float.ofNat 0).toModel.unpack = .zero .positive := rfl
    refine ⟨rfl, ?_⟩
    rw [realOf, zero]
    exact Nat.cast_zero.symm
  · have bits : integer.log2 < 53 := (Nat.log2_lt positive.ne').mpr short
    obtain ⟨places, filled⟩ := Nat.exists_eq_add_of_le (Nat.le_of_lt_succ bits)
    have also : 0 < integer * 2 ^ places :=
      Nat.mul_pos positive (Nat.two_pow_pos places)
    have form := unpack_ofNat_short positive filled.symm also
    constructor
    · change (Float.ofNat integer).toModel.unpack.isFinite = true
      rw [form]
      rfl
    · rw [realOf, form, unpackedReal_positive, zpow_neg, zpow_natCast]
      push_cast
      field_simp

section Long

variable {integer : Nat}

/-- What has more than 53 bits is rounded. -/
theorem toModel_ofNat_long (large : 2 ^ 53 ≤ integer) :
    (Float.ofNat integer).toModel =
      Float.Model.pack (UnpackedFloat.roundWithAccuracy .binary64 .positive
        (integer * 2 ^ 53) (-53) .exact) := by
  have slow : Float.ofNat integer =
      Float.ofModel (Float.Model.ofScientific integer (Int.ofNat 0)) := by
    change Float.ofScientific integer false 0 = _
    rw [Float.ofScientific, dif_neg fun fast => absurd fast.1 large.not_gt]
    rfl
  have some : integer ≠ 0 := by omega
  rw [slow]
  change Float.Model.pack (UnpackedFloat.ofScientific .binary64 integer 0) = _
  have notTooSmall : ¬ (0 : Int) < -((2 ^ 11 : Int) + integer.log2) := by omega
  rw [UnpackedFloat.ofScientific, dif_neg some, if_neg (by decide),
    if_neg notTooSmall, if_pos le_rfl]
  change Float.Model.pack (UnpackedFloat.roundWithAccuracy .binary64 .positive
    (integer <<< 53 * 1) (-53) .exact) = _
  rw [Nat.shiftLeft_eq, Nat.mul_one]

/-- The last of the 53 places of a long integer. -/
def lastPlace (integer : Nat) : Int :=
  -53 + ((integer.log2 + 1 : Nat) : Int)

theorem shiftsBy_long (large : 2 ^ 53 ≤ integer) :
    ShiftsBy (integer * 2 ^ 53) (-53) (integer.log2 + 1) := by
  have positive : 0 < integer := by omega
  have low : 53 ≤ integer.log2 := (Nat.le_log2 positive.ne').mpr large
  rw [ShiftsBy.iff_max, ← Nat.shiftLeft_eq, log2_shiftLeft positive]
  omega

/-- The multiple of the last place that a long integer is rounded to. -/
def lastMultiple (integer : Nat) : Nat :=
  rounded (integer * 2 ^ 53) (integer.log2 + 1)

theorem nearestMultiple_long (integer : Nat) :
    NearestMultiple (integer : Int) (2 ^ lastPlace integer) (lastMultiple integer) := by
  have nearest := nearestMultiple_rounded (integer * 2 ^ 53) (integer.log2 + 1) (-53)
  have scaled : ((integer * 2 ^ 53 : Nat) : ℝ) * 2 ^ (-53 : Int) = (integer : Int) := by
    rw [Nat.cast_mul, mul_assoc]
    norm_num
  rwa [scaled] at nearest

theorem least_le_long (large : 2 ^ 53 ≤ integer) :
    (2 : ℝ) ^ 52 * 2 ^ lastPlace integer ≤ (integer : Int) := by
  have positive : integer ≠ 0 := by omega
  have place : (2 : ℝ) ^ 52 * 2 ^ lastPlace integer = 2 ^ integer.log2 := by
    rw [lastPlace, ← zpow_natCast, ← zpow_natCast, ← zpow_add₀ two_ne_zero]
    congr 1
    push_cast
    ring
  rw [place]
  exact_mod_cast Nat.log2_self_le positive

/-- What a long integer is rounded to is its last multiple, which may have one bit too
many and then is halved. -/
theorem unpack_ofNat_long (large : 2 ^ 53 ≤ integer) (bounded : integer ≤ 2 ^ 63) :
    ∃ rest reach also,
      (Float.ofNat integer).toModel.unpack = .finite .positive rest reach also ∧
        (rest : ℝ) * 2 ^ reach = lastMultiple integer * 2 ^ lastPlace integer ∧
        (Even (lastMultiple integer) → Even rest) := by
  have positive : 0 < integer := by omega
  have more : 0 < integer * 2 ^ 53 := Nat.mul_pos positive (Nat.two_pow_pos 53)
  have low : 53 ≤ integer.log2 := (Nat.le_log2 positive.ne').mpr large
  have high : integer.log2 < 64 := by
    rw [Nat.log2_lt positive.ne']
    omega
  have shifts := shiftsBy_long large
  have bits := shifts.le_rounded more
  have some : 0 < rounded (integer * 2 ^ 53) (integer.log2 + 1) := by omega
  have packed := toModel_ofNat_long large
  have within : lastPlace integer ≤ 970 := by
    unfold lastPlace
    omega
  rcases shifts.round_cases more some with ⟨short, same⟩ | ⟨full, same⟩
  · refine ⟨_, _, some, ?_, rfl, id⟩
    rw [packed, same]
    exact unpack_pack ⟨short, by omega, .inl (by omega)⟩ (within.trans (by decide))
  · refine ⟨2 ^ 52, lastPlace integer + 1, by decide, ?_, ?_, fun _ => by decide⟩
    · rw [packed, same]
      exact unpack_pack ⟨by decide, by omega, .inl le_rfl⟩ (Int.add_le_add_right within 1)
    · rw [lastMultiple, full, zpow_add_one₀ two_ne_zero]
      push_cast
      ring

theorem Nearest.ofNat_long (large : 2 ^ 53 ≤ integer)
    (bounded : integer ≤ 2 ^ 63) : Nearest integer (Float.ofNat integer) := by
  obtain ⟨rest, reach, also, form, same, even⟩ := unpack_ofNat_long large bounded
  refine .of_multiple ?_ (least_le_long large) (nearestMultiple_long integer) ?_ ?_
  · change (Float.ofNat integer).toModel.unpack.isFinite = true
    rw [form]
    rfl
  · rw [realOf, form, unpackedReal_positive, same, Int.cast_natCast]
  · intro multiple
    rw [form]
    exact even ((Int.even_coe_nat _).mp multiple)

end Long

end Rulebook
