import Rulebook.Proofs.Comparison

/-!
# Doubles that are not NaN

NaN enters a computation from outside or through the difference of two
infinities, and in no other way: adding a finite number to something that is not
NaN, or subtracting one from it, does not give NaN.  Doubles that are not NaN are
totally ordered, and each of them equals itself.

Weights lie between zero and one, so they are finite.
-/

open Float.Model

namespace Rulebook

/-- Only the greatest exponent with a mantissa that is not zero stands for
NaN. -/
theorem unpack_packComponents_isNaN (sign : UnpackedFloat.Sign)
    (exponent : BitVec 11) (mantissa : BitVec 52)
    (number : exponent ≠ -1#11 ∨ mantissa = 0#52) :
    (UnpackedFloat.unpack .binary64
      (UnpackedFloat.packComponents .binary64 sign exponent mantissa)).isNaN =
        false := by
  have kept : UnpackedFloat.unpackMantissa
      (UnpackedFloat.packComponents .binary64 sign exponent mantissa) =
        mantissa :=
    UnpackedFloat.unpackMantissa_packComponents
  unfold UnpackedFloat.unpack
  dsimp only
  rw [UnpackedFloat.unpackExponent_packComponents]
  by_cases greatest : exponent = -1#11
  · have zero : mantissa = 0#52 := number.resolve_left (absurd greatest)
    rw [if_pos greatest, if_pos (kept.trans zero)]
    rfl
  · rw [if_neg greatest]
    by_cases least : exponent = 0#11
    · rw [if_pos least]
      by_cases zero : mantissa = 0#52
      · rw [dif_pos (kept.trans zero)]
        rfl
      · rw [dif_neg fun same => zero (kept.symm.trans same)]
        rfl
    · rw [if_neg least]
      rfl

/-- Packing makes no NaN: what is too large becomes infinite. -/
theorem pack_isNaN {value : UnpackedFloat} (number : value.isNaN = false) :
    (Float.Model.pack value).isNaN = false := by
  change (UnpackedFloat.unpack .binary64
    (UnpackedFloat.pack .binary64 value)).isNaN = false
  cases value with
  | notANumber => cases number
  | infinity sign => exact unpack_packComponents_isNaN sign _ _ (.inr rfl)
  | zero sign => exact unpack_packComponents_isNaN sign _ _ (.inr rfl)
  | finite sign mantissa exponent positive =>
      unfold UnpackedFloat.pack
      dsimp only
      split
      · exact unpack_packComponents_isNaN sign _ _ (.inr rfl)
      · split
        · refine unpack_packComponents_isNaN sign _ _ (.inl fun same => ?_)
          have greatest := congrArg BitVec.toNat same
          rw [BitVec.toNat_ofNat] at greatest
          have value : (-1#11).toNat = 2047 := by decide
          omega
        · exact unpack_packComponents_isNaN sign _ _ (.inl (by decide))

theorem normalize_isNaN (mantissa exponent : Int) (sign : UnpackedFloat.Sign) :
    (UnpackedFloat.normalize .binary64 mantissa exponent sign).isNaN =
      false := by
  have rounded (sign : UnpackedFloat.Sign) (mantissa : Nat) (exponent : Int) :
      (UnpackedFloat.round .binary64 sign mantissa exponent).isNaN = false := by
    unfold UnpackedFloat.round UnpackedFloat.roundWithAccuracy
    dsimp only
    rw [apply_dite UnpackedFloat.isNaN]
    exact ite_self false
  unfold UnpackedFloat.normalize
  split
  · exact rounded _ _ _
  · rfl
  · exact rounded _ _ _

/-- What is done to an unpacked number with a finite one is a number. -/
theorem unpacked_add_isNaN {first second : UnpackedFloat}
    (number : first.isNaN = false) (finite : second.isFinite = true) :
    (UnpackedFloat.add .binary64 first second).isNaN = false := by
  cases first with
  | notANumber => cases number
  | infinity sign =>
      cases second with
      | zero | finite => rfl
      | infinity | notANumber => cases finite
  | zero sign =>
      cases second with
      | zero other => cases sign <;> cases other <;> rfl
      | finite => rfl
      | infinity | notANumber => cases finite
  | finite sign mantissa exponent positive =>
      cases second with
      | zero => rfl
      | finite => exact normalize_isNaN _ _ _
      | infinity | notANumber => cases finite

/-- Subtracting is adding what is negated. -/
theorem unpacked_sub_eq_add_neg (first second : UnpackedFloat) :
    UnpackedFloat.sub .binary64 first second =
      UnpackedFloat.add .binary64 first second.neg := by
  have negated (sign : UnpackedFloat.Sign) (value : Int) :
      (-sign).apply value = -sign.apply value := by
    cases sign with
    | positive => rfl
    | negative => exact (Int.neg_neg value).symm
  cases first with
  | finite sign mantissa exponent positive =>
      cases second with
      | finite other rest against also =>
          unfold UnpackedFloat.sub UnpackedFloat.add UnpackedFloat.neg
          dsimp only
          rw [Int.sub_eq_add_neg, negated]
      | notANumber | infinity | zero => rfl
  | notANumber | infinity | zero => cases second <;> rfl

theorem add_isNaN {first second : Float} (number : first.isNaN = false)
    (finite : second.isFinite = true) : (first + second).isNaN = false :=
  pack_isNaN (unpacked_add_isNaN number finite)

theorem sub_isNaN {first second : Float} (number : first.isNaN = false)
    (finite : second.isFinite = true) : (first - second).isNaN = false := by
  have negated {value : UnpackedFloat} (finite : value.isFinite = true) :
      value.neg.isFinite = true := by
    cases value with
    | notANumber | infinity => cases finite
    | zero | finite => rfl
  change (Float.Model.pack (UnpackedFloat.sub .binary64 first.toModel.unpack
    second.toModel.unpack)).isNaN = false
  rw [unpacked_sub_eq_add_neg]
  exact pack_isNaN (unpacked_add_isNaN number (negated finite))

theorem abs_isNaN {value : Float} (number : value.isNaN = false) :
    value.abs.isNaN = false := by
  have unpacked {value : UnpackedFloat} (number : value.isNaN = false) :
      value.abs.isNaN = false := by
    cases value with
    | notANumber => cases number
    | infinity | zero | finite => rfl
  exact pack_isNaN (unpacked number)

/-- A finite double is not NaN. -/
theorem isNaN_of_isFinite {value : Float} (finite : value.isFinite = true) :
    value.isNaN = false := by
  have unpacked {value : UnpackedFloat} (finite : value.isFinite = true) :
      value.isNaN = false := by
    cases value with
    | notANumber => cases finite
    | infinity | zero | finite => rfl
  exact unpacked finite

theorem compare_swap (first second : UnpackedFloat) :
    second.compare first = (first.compare second).map Ordering.swap := by
  have finite (one other : Int) (mantissa rest : Nat) :
      ((compare one other).then (compare mantissa rest)).swap =
        (compare other one).then (compare rest mantissa) := by
    rw [Ordering.swap_then, ← Std.OrientedCmp.eq_swap,
      ← Std.OrientedCmp.eq_swap]
  cases first with
  | notANumber =>
      cases second with
      | infinity sign => cases sign <;> rfl
      | finite sign => cases sign <;> rfl
      | zero | notANumber => rfl
  | infinity sign =>
      cases second with
      | infinity other => cases sign <;> cases other <;> rfl
      | finite other => cases sign <;> cases other <;> rfl
      | zero | notANumber => cases sign <;> rfl
  | zero sign =>
      cases second with
      | infinity other => cases other <;> rfl
      | finite other => cases other <;> rfl
      | zero | notANumber => rfl
  | finite sign mantissa exponent positive =>
      cases second with
      | infinity other => cases sign <;> cases other <;> rfl
      | finite other =>
          cases sign <;> cases other
          · exact congrArg some
              (congrArg Ordering.swap (finite _ _ _ _).symm)
          · rfl
          · rfl
          · exact congrArg some (finite _ _ _ _).symm
      | zero | notANumber => cases sign <;> rfl

/-- Only NaN is not comparable. -/
theorem compare_isSome {first second : UnpackedFloat}
    (one : first.isNaN = false) (other : second.isNaN = false) :
    (first.compare second).isSome = true := by
  cases first with
  | notANumber => cases one
  | infinity sign =>
      cases second with
      | notANumber => cases other
      | _ => cases sign <;> rfl
  | zero sign =>
      cases second with
      | notANumber => cases other
      | zero => rfl
      | infinity against => cases against <;> rfl
      | finite against => cases against <;> rfl
  | finite sign =>
      cases second with
      | notANumber => cases other
      | zero => cases sign <;> rfl
      | infinity against => cases sign <;> cases against <;> rfl
      | finite against => cases sign <;> cases against <;> rfl

/-- Of two doubles that are not NaN, one is at most the other. -/
theorem le_of_not_lt {first second : Float} (one : first.isNaN = false)
    (other : second.isNaN = false) (notBelow : ¬ second < first) :
    first ≤ second := by
  rw [lt_iff_compare] at notBelow
  rw [le_iff_compare]
  unfold Float.Model.compare at *
  obtain ⟨order, same⟩ := Option.isSome_iff_exists.mp (compare_isSome other one)
  rw [same] at notBelow
  rw [compare_swap, same]
  cases order with
  | lt => exact absurd rfl notBelow
  | eq => rfl
  | gt => rfl

/-- A double equals itself unless it is NaN. -/
theorem beq_self {value : Float} (number : value.isNaN = false) :
    (value == value) = true := by
  have unpacked {value : UnpackedFloat} (number : value.isNaN = false) :
      value.compare value = some .eq := by
    cases value with
    | notANumber => cases number
    | infinity sign => cases sign <;> rfl
    | zero sign => rfl
    | finite sign mantissa exponent =>
        have same : (compare exponent exponent).then
            (compare mantissa mantissa) = .eq := by
          have one : compare exponent exponent = .eq := Std.ReflCmp.compare_self
          have two : compare mantissa mantissa = .eq := Std.ReflCmp.compare_self
          rw [one, two, Ordering.then]
        cases sign with
        | positive => exact congrArg some same
        | negative => exact congrArg some (congrArg Ordering.swap same)
  rw [beq_eq_compare]
  exact beq_iff_eq.mpr (unpacked number)

/-- What lies between zero and one is finite. -/
theorem isFinite_of_mem_unit {weight : Float} (low : 0 ≤ weight)
    (high : weight ≤ 1) : weight.isFinite = true := by
  have zero : (0 : Float).toModel.unpack = .zero .positive := rfl
  have one : (1 : Float).toModel.unpack =
      .finite .positive (2 ^ 52) (-52) (by decide) :=
    rfl
  rw [le_iff_compare] at low high
  unfold Float.Model.compare at low high
  rw [zero] at low
  rw [one] at high
  change weight.toModel.unpack.isFinite = true
  cases value : weight.toModel.unpack with
  | notANumber =>
      rw [value] at low
      cases low
  | infinity sign =>
      rw [value] at low high
      cases sign with
      | positive => cases high
      | negative => cases low
  | zero | finite => rfl

end Rulebook
