/-!
# The shortest decimal of a binary fraction

A positive binary fraction `mantissa * 2 ^ exponent` stands for the interval of
all reals that round to it, which reaches half way to either neighbour.  Many
decimals lie in that interval.  `Binary.shortest` picks one with the fewest
digits, of those the nearest to the fraction, and of two equally near ones the
larger.  All comparisons are between natural numbers.

For each number of digits, only two decimals have to be tried: the largest one
that is not above the fraction, and its successor on the same grid.  If any
decimal of that grid lies in the interval, then one of these two does.
-/

namespace Rulebook

namespace Decimal

/-- A positive decimal `coefficient * 10 ^ exponent`. -/
structure Digits where
  coefficient : Nat
  exponent : Int
deriving DecidableEq, Repr

/-- A positive binary fraction `mantissa * 2 ^ exponent`.  The neighbour below
is only half as far away as the one above when `narrowBelow` holds. -/
structure Binary where
  mantissa : Nat
  exponent : Int
  narrowBelow : Bool
deriving DecidableEq, Repr

namespace Binary

/-- The denominator over which a quarter of the last binary place is whole. -/
def denominator (fraction : Binary) : Nat :=
  Nat.pow 2 (2 - fraction.exponent).toNat

/-- A number of quarters of the last binary place, as a numerator over
`denominator`. -/
def quarters (fraction : Binary) (count : Nat) : Nat :=
  count * Nat.pow 2 (fraction.exponent - 2).toNat

/-- The fraction itself, as a numerator over `denominator`. -/
def numerator (fraction : Binary) : Nat :=
  fraction.quarters (4 * fraction.mantissa)

/-- The lower end of the interval that rounds to the fraction. -/
def lower (fraction : Binary) : Nat :=
  fraction.quarters
    (4 * fraction.mantissa - if fraction.narrowBelow then 1 else 2)

/-- The upper end of the interval that rounds to the fraction. -/
def upper (fraction : Binary) : Nat :=
  fraction.quarters (4 * fraction.mantissa + 2)

/-- Whether the ends of the interval round to the fraction as well: a tie goes
to the even mantissa. -/
def closed (fraction : Binary) : Bool :=
  fraction.mantissa % 2 = 0

/-- The number of decimal digits of a natural number, where zero has none. -/
def digitCount (number : Nat) : Nat :=
  if number = 0 then 0 else (Nat.toDigits 10 number).length

/-- The least `magnitude` such that the fraction is below
`10 ^ magnitude`. -/
def magnitude (fraction : Binary) : Int :=
  let whole := fraction.numerator / fraction.denominator
  if whole = 0 then
    1 - digitCount ((fraction.denominator - 1) / fraction.numerator)
  else
    digitCount whole

/-- A multiple of `10 ^ place`, together with the fraction and its interval,
all as numerators over one denominator: the unit of the grid, the fraction, and
the two ends. -/
structure Scaled where
  unit : Nat
  value : Nat
  lower : Nat
  upper : Nat

/-- Bring the fraction and the grid of multiples of `10 ^ place` to a common
denominator. -/
def scale (fraction : Binary) (place : Int) : Scaled :=
  let up := Nat.pow 10 (-place).toNat
  { unit := fraction.denominator * Nat.pow 10 place.toNat
    value := fraction.numerator * up
    lower := fraction.lower * up
    upper := fraction.upper * up }

/-- The decimal of the grid of multiples of `10 ^ place` that the fraction
rounds to, if there is one in its interval. -/
def onGrid (fraction : Binary) (place : Int) : Option Digits :=
  let scaled := fraction.scale place
  let below := scaled.value / scaled.unit
  let above := below + 1
  let belowFits :=
    if fraction.closed then
      scaled.lower ≤ below * scaled.unit
    else
      scaled.lower < below * scaled.unit
  let aboveFits :=
    if fraction.closed then
      above * scaled.unit ≤ scaled.upper
    else
      above * scaled.unit < scaled.upper
  let aboveNearer :=
    above * scaled.unit - scaled.value ≤ scaled.value - below * scaled.unit
  if aboveFits ∧ (¬ belowFits ∨ aboveNearer) then
    some ⟨above, place⟩
  else if belowFits then
    some ⟨below, place⟩
  else
    none

/-- Try grids that are finer and finer by one digit, and settle for the last
one. -/
def search (fraction : Binary) (place : Int) : Nat → Digits
  | 0 =>
      let scaled := fraction.scale place
      ⟨scaled.value / scaled.unit, place⟩
  | attempts + 1 =>
      match fraction.onGrid place with
      | some digits => digits
      | none => fraction.search (place - 1) attempts

/-- The most digits that any double needs. -/
def mostDigits : Nat :=
  17

/-- The decimal with the fewest digits that rounds to the fraction. -/
def shortest (fraction : Binary) : Digits :=
  fraction.search (fraction.magnitude - 1) mostDigits

end Binary

namespace Digits

/-- The same decimal without trailing zeros in the coefficient, of which at
most `most` are removed. -/
def trim (digits : Digits) : Nat → Digits
  | 0 => digits
  | most + 1 =>
      if digits.coefficient ≠ 0 ∧ digits.coefficient % 10 = 0 then
        trim ⟨digits.coefficient / 10, digits.exponent + 1⟩ most
      else
        digits

end Digits

/-- A double, taken apart. -/
inductive Parts where
  | notANumber
  | infinite (negative : Bool)
  | zero (negative : Bool)
  | finite (negative : Bool) (magnitude : Binary)
deriving DecidableEq, Repr

/-- Take a double apart by its bits: one sign bit, eleven bits of exponent and
fifty-two of fraction. -/
def parts (number : Float) : Parts :=
  let bits := number.toBits.toNat
  let negative := decide (bits / Nat.pow 2 63 = 1)
  let biased : Nat := bits / Nat.pow 2 52 % Nat.pow 2 11
  let fraction : Nat := bits % Nat.pow 2 52
  if biased = Nat.pow 2 11 - 1 then
    if fraction = 0 then .infinite negative else .notANumber
  else if biased = 0 then
    if fraction = 0 then
      .zero negative
    else
      .finite negative ⟨fraction, -1074, false⟩
  else
    .finite negative
      ⟨Nat.pow 2 52 + fraction, (biased : Int) - 1075, fraction = 0 ∧ 1 < biased⟩

end Decimal

end Rulebook
