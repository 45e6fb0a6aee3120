import Rulebook.Decimal.Shortest

/-!
# Writing doubles

A double is written with its shortest decimal digits.  A `Layout` holds what is
left to choose: from which magnitude on an exponent takes the place of zeros,
and whether a whole number ends in `.0`.  The library writes in two layouts,
`plain` for every message and display text and `marked` for the values inside
trace entries.
-/

namespace Rulebook

namespace Decimal

/-- How the digits of a double are laid out. -/
structure Layout where
  /-- The magnitudes, as positions of the first digit relative to the point,
  that are written without an exponent; all of them if there are no bounds. -/
  positional : Option (Int × Int)
  /-- Whether a whole number written without an exponent ends in `.0`. -/
  marksWhole : Bool

namespace Layout

/-- Never an exponent, and nothing after a whole number. -/
def plain : Layout :=
  ⟨none, false⟩

/-- An exponent below `0.0001` and from `10000000000000000` on, and `.0` after a
whole number. -/
def marked : Layout :=
  ⟨some (-3, 16), true⟩

/-- Whether numbers whose first digit stands at this position are written
without an exponent. -/
def isPositional (layout : Layout) (magnitude : Int) : Bool :=
  match layout.positional with
  | none => true
  | some (least, greatest) => least ≤ magnitude ∧ magnitude ≤ greatest

def wholeMark (layout : Layout) : String :=
  if layout.marksWhole then ".0" else ""

def zeros (count : Nat) : String :=
  String.ofList (List.replicate count '0')

/-- Write digits without an exponent, the point standing `magnitude` places
after the first digit's left edge. -/
def writePositional (layout : Layout) (digits : List Char)
    (magnitude : Int) : String :=
  if magnitude ≤ 0 then
    "0." ++ zeros (-magnitude).toNat ++ String.ofList digits
  else if digits.length ≤ magnitude.toNat then
    String.ofList digits ++ zeros (magnitude.toNat - digits.length) ++
      layout.wholeMark
  else
    String.ofList (digits.take magnitude.toNat) ++ "." ++
      String.ofList (digits.drop magnitude.toNat)

/-- Write digits with one digit before the point and an exponent. -/
def writeExponential (digits : List Char) (magnitude : Int) : String :=
  let point := if digits.length ≤ 1 then "" else "."
  String.ofList (digits.take 1) ++ point ++ String.ofList (digits.drop 1) ++
    "e" ++ toString (magnitude - 1)

def writeDigits (layout : Layout) (decimal : Digits) : String :=
  let trimmed := decimal.trim Binary.mostDigits
  let digits := Nat.toDigits 10 trimmed.coefficient
  let magnitude := digits.length + trimmed.exponent
  if layout.isPositional magnitude then
    layout.writePositional digits magnitude
  else
    writeExponential digits magnitude

def sign (negative : Bool) : String :=
  if negative then "-" else ""

def write (layout : Layout) (number : Float) : String :=
  match parts number with
  | .notANumber => "NaN"
  | .infinite negative => sign negative ++ "inf"
  | .zero negative => sign negative ++ "0" ++ layout.wholeMark
  | .finite negative magnitude =>
      sign negative ++ layout.writeDigits magnitude.shortest

end Layout

/-- The text of a double in messages and display texts. -/
def plain (number : Float) : String :=
  Layout.plain.write number

/-- The text of a double inside a trace entry. -/
def marked (number : Float) : String :=
  Layout.marked.write number

end Decimal

end Rulebook
