import Rulebook.Operator.Basic

/-!
# Equal numbers compare alike

Two doubles may be equal without being the same, as a zero and a negative zero
are.  Comparisons do not tell such doubles apart, and neither do the tests of
numbers.  NaN equals nothing, so nothing is said about it here.
-/

open Float.Model

namespace Rulebook

theorem eq_of_compare_then {firstExponent secondExponent : Int}
    {firstMantissa secondMantissa : Nat}
    (same : (compare firstExponent secondExponent).then
      (compare firstMantissa secondMantissa) = .eq) :
    firstExponent = secondExponent ∧ firstMantissa = secondMantissa := by
  rw [Ordering.then_eq_eq, Std.LawfulEqCmp.compare_eq_iff_eq,
    Std.LawfulEqCmp.compare_eq_iff_eq] at same
  exact same

/-- Unpacked numbers that compare equal are the same one, or both are zero. -/
theorem compare_eq_cases {first second : UnpackedFloat}
    (same : first.compare second = some .eq) :
    first = second ∨
      ∃ firstSign secondSign, first = .zero firstSign ∧
        second = .zero secondSign := by
  cases first with
  | notANumber => cases same
  | zero sign =>
      cases second with
      | zero other => exact .inr ⟨sign, other, rfl, rfl⟩
      | infinity other => cases other <;> cases same
      | finite other => cases other <;> cases same
      | notANumber => cases same
  | infinity sign =>
      cases second with
      | infinity other =>
          cases sign <;> cases other <;> cases same <;> exact .inl rfl
      | zero other => cases sign <;> cases same
      | finite other => cases sign <;> cases other <;> cases same
      | notANumber => cases sign <;> cases same
  | finite sign mantissa exponent =>
      cases second with
      | finite other =>
          cases sign <;> cases other
          · have swapped := Option.some.inj same
            rw [Ordering.swap_eq_eq] at swapped
            obtain ⟨rfl, rfl⟩ := eq_of_compare_then swapped
            exact .inl rfl
          · cases same
          · cases same
          · obtain ⟨rfl, rfl⟩ := eq_of_compare_then (Option.some.inj same)
            exact .inl rfl
      | infinity other => cases sign <;> cases other <;> cases same
      | zero other => cases sign <;> cases same
      | notANumber => cases sign <;> cases same

theorem compare_zero (first second : UnpackedFloat.Sign) (other : UnpackedFloat) :
    (UnpackedFloat.zero first).compare other =
        (UnpackedFloat.zero second).compare other ∧
      other.compare (.zero first) = other.compare (.zero second) := by
  cases other with
  | infinity sign => cases sign <;> exact ⟨rfl, rfl⟩
  | finite sign => cases sign <;> exact ⟨rfl, rfl⟩
  | _ => exact ⟨rfl, rfl⟩

theorem lt_iff_compare {first second : Float} :
    first < second ↔ first.toModel.compare second.toModel = some .lt := by
  have model : first < second ↔ first.toModel < second.toModel :=
    decide_eq_true_iff
  exact model.trans beq_iff_eq

theorem le_iff_compare {first second : Float} :
    first ≤ second ↔
      (first.toModel.compare second.toModel).any (·.isLE) = true := by
  have model : first ≤ second ↔ first.toModel ≤ second.toModel :=
    decide_eq_true_iff
  exact model

theorem beq_eq_compare (first second : Float) :
    (first == second) =
      (first.toModel.compare second.toModel == some .eq) :=
  rfl

theorem compare_congr {first second : Float} (same : first == second)
    (other : Float) :
    first.toModel.compare other.toModel = second.toModel.compare other.toModel ∧
      other.toModel.compare first.toModel =
        other.toModel.compare second.toModel := by
  rw [beq_eq_compare, beq_iff_eq] at same
  unfold Float.Model.compare at *
  rcases compare_eq_cases same with one | ⟨sign, otherSign, zero, otherZero⟩
  · rw [one]
    exact ⟨rfl, rfl⟩
  · rw [zero, otherZero]
    exact compare_zero sign otherSign _

/-- A test of numbers does not tell equal doubles apart. -/
theorem NumericTest.accepts_congr {first second : Float}
    (same : first == second) (test : NumericTest) :
    test.accepts first = test.accepts second := by
  have alike := compare_congr same
  cases test with
  | isNone => rfl
  | _ =>
      simp only [accepts, bne, lt_iff_compare, le_iff_compare, beq_eq_compare,
        alike]

end Rulebook
