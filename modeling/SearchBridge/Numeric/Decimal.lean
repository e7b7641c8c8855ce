import SearchBridge.Numeric.Binary64

/-!
# Decimal notation of doubles

`Decimal.shortest` finds the fewest decimal digits that read back as a given double, and among
those the nearest ones. A `Layout` holds the decisions of a notation that do not change the
value: where the point may stand, whether a whole number keeps a fraction, and which way a tie
between two shortest forms goes. `Decimal.toBinary64` is the reading side: the double nearest to a
decimal.
-/

namespace SearchBridge

/-- The number `digits * 10 ^ exponent`. -/
structure Decimal where
  digits : Nat
  exponent : Int
  deriving DecidableEq

/-- Where the choice between two equally near decimals goes. -/
inductive Decimal.Tie where
  | toEven
  | up
  deriving DecidableEq

/-- The choices of a notation that leave the value alone. -/
structure Decimal.Layout where
  /-- Whether a number whose first digit counts `10 ^ e` is written without exponent. -/
  positional : Int → Bool
  /-- Whether a whole number is written with `.0`. -/
  wholeFraction : Bool
  /-- Which of two equally near shortest decimals is written. -/
  tie : Decimal.Tie

namespace Decimal

/-- A power of ten. -/
def tenTo (n : Nat) : Nat := Nat.pow 10 n

/-- The number of decimal digits of a natural number. -/
def width (n : Nat) : Nat := (Nat.toDigits 10 n).length

/-- The same number without trailing zeros among its digits. -/
def trim (d : Decimal) : Decimal :=
  go d.digits d.exponent (width d.digits)
where
  /-- Drops up to `fuel` trailing zeros. -/
  go (digits : Nat) (exponent : Int) : Nat → Decimal
    | 0 => ⟨digits, exponent⟩
    | fuel + 1 =>
      if digits % 10 = 0 then go (digits / 10) (exponent + 1) fuel else ⟨digits, exponent⟩

/-- The reals that round to a positive double, as numbers over `4 * unit`: from `lower` to
`upper`, the ends included iff `closed`. -/
structure Interval where
  lower : Nat
  value : Nat
  upper : Nat
  closed : Bool

/-- The rounding interval of a positive double: half a step to either side, and half of the
finer step below a power of two. -/
def Interval.of (x : Binary64.Finite) : Interval :=
  let step := 1 <<< x.scale
  let below := if x.significand = 1 <<< 52 ∧ 0 < x.scale then step else 2 * step
  { lower := 4 * x.numerator - below
    value := 4 * x.numerator
    upper := 4 * x.numerator + 2 * step
    closed := x.significand % 2 == 0 }

/-- The power of ten that the first digit of a positive double counts. -/
def leadingExponent (x : Binary64.Finite) : Int :=
  (width (x.numerator * tenTo 330 / Binary64.Finite.unit) : Int) - 331

/-- The point of the grid of multiples of `10 ^ exponent` that lies in the interval and nearest to
its value, if one of the value's two neighbours on the grid lies in the interval. -/
def Interval.nearest? (i : Interval) (tie : Tie) (exponent : Int) : Option Nat :=
  let zoom := tenTo (-exponent).toNat
  let step := 4 * Binary64.Finite.unit * tenTo exponent.toNat
  let below := i.value * zoom / step
  let remainder := i.value * zoom % step
  let fitsBelow :=
    if i.closed then decide (i.lower * zoom ≤ below * step)
    else decide (i.lower * zoom < below * step)
  let fitsAbove :=
    if i.closed then decide ((below + 1) * step ≤ i.upper * zoom)
    else decide ((below + 1) * step < i.upper * zoom)
  let prefersAbove :=
    decide (step < 2 * remainder) ||
      (decide (2 * remainder = step) && (tie == .up || below % 2 == 1))
  match fitsBelow, fitsAbove with
  | true, true => some (if prefersAbove then below + 1 else below)
  | true, false => some below
  | false, true => some (below + 1)
  | false, false => none

/-- The shortest decimal that reads back as the magnitude of a double: the first count of digits
with a grid point in the rounding interval. Seventeen digits always suffice. -/
def shortest (tie : Tie) (x : Binary64.Finite) : Decimal :=
  if x.isZero then ⟨0, 0⟩
  else
    let first := leadingExponent x
    let found := (List.range 17).findSome? fun (n : Nat) =>
      ((Interval.of x).nearest? tie (first - n)).map fun digits => trim ⟨digits, first - n⟩
    found.getD ⟨0, 0⟩

/-- The text of `n` zeros. -/
def zeros (n : Nat) : String := String.ofList (List.replicate n '0')

/-- A decimal in a layout: positional, or one digit before the point and a signed exponent. -/
def render (layout : Layout) (d : Decimal) : String :=
  let text := Nat.toDigits 10 d.digits
  let count := text.length
  let first := d.exponent + count - 1
  let tail := if layout.wholeFraction then ".0" else ""
  if layout.positional first then
    if first < 0 then
      "0." ++ zeros (-first - 1).toNat ++ String.ofList text
    else
      let whole := first.toNat + 1
      if count ≤ whole then String.ofList text ++ zeros (whole - count) ++ tail
      else String.ofList (text.take whole) ++ "." ++ String.ofList (text.drop whole)
  else
    let mantissa := String.ofList (text.take 1) ++
      (if count ≤ 1 then "" else "." ++ String.ofList (text.drop 1))
    mantissa ++ (if first < 0 then "e-" else "e+") ++ toString first.natAbs

/-- The double nearest to `± digits * 10 ^ exponent`. Exponents far outside the format's range
are answered without computing the power. -/
def toBinary64 (negative : Bool) (d : Decimal) : Binary64 :=
  let first := d.exponent + width d.digits
  if d.digits = 0 then .finite (.zero negative)
  else if first > 320 then .infinite negative
  else if first < -340 then .finite (.zero negative)
  else Binary64.ofRatio negative (d.digits * tenTo d.exponent.toNat)
    (tenTo (-d.exponent).toNat)

/-- Plain notation: never an exponent, a whole number without fraction, a tie goes up. -/
def plain : Layout where
  positional _ := true
  wholeFraction := false
  tie := .up

end Decimal

/-- The text of a finite double in a layout. -/
def Binary64.Finite.render (layout : Decimal.Layout) (x : Binary64.Finite) : String :=
  (if x.negative then "-" else "") ++ (Decimal.shortest layout.tie x).render layout

/-- The plain text of a double, as it is shown to people. -/
def Binary64.display : Binary64 → String
  | .finite x => x.render Decimal.plain
  | .infinite negative => if negative then "-inf" else "inf"
  | .nan => "NaN"

end SearchBridge
