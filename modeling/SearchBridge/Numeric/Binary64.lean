/-!
# Binary64 numbers

A double is a finite number, an infinity or the result of an invalid operation. A finite one is a
signed integral significand on a binary grid, in the one canonical form that its value has, so
that equality of representations is equality of bit patterns. Numbers enter the format by
rounding an exact quotient to the nearest double, a tie going to the even significand.
-/

namespace SearchBridge

/-- A finite double `± significand * 2 ^ scale / 2 ^ 1074`. The significand is as long as the
format allows unless the scale is already the least one. -/
structure Binary64.Finite where
  negative : Bool
  significand : Nat
  scale : Nat
  significand_lt : significand < 1 <<< 53
  scale_le : scale ≤ 2045
  canonical : scale = 0 ∨ 1 <<< 52 ≤ significand
  deriving DecidableEq

/-- A double. -/
inductive Binary64 where
  | finite (value : Binary64.Finite)
  | infinite (negative : Bool)
  | nan
  deriving DecidableEq

namespace Binary64.Finite

/-- The zero of the given sign. -/
def zero (negative : Bool) : Finite where
  negative := negative
  significand := 0
  scale := 0
  significand_lt := by decide
  scale_le := by decide
  canonical := .inl rfl

instance : Inhabited Finite := ⟨zero false⟩

/-- The magnitude of a finite double is this number over `2 ^ 1074`. -/
def numerator (x : Finite) : Nat := x.significand <<< x.scale

/-- The least positive double is one over this number. -/
def unit : Nat := 1 <<< 1074

/-- A zero of either sign. -/
def isZero (x : Finite) : Bool := x.significand == 0

/-- A number without fraction. -/
def isWhole (x : Finite) : Bool := x.numerator % unit == 0

/-- The magnitude without its fraction. -/
def floor (x : Finite) : Nat := x.numerator / unit

/-- The integer next to the number in the direction of zero. -/
def truncate (x : Finite) : Int :=
  if x.negative then -(x.floor : Int) else x.floor

/-- The magnitude rounded to an integer, a half going away from zero. -/
def roundHalfUp (x : Finite) : Nat := (2 * x.numerator + unit) / (2 * unit)

/-- Equality of values: the two zeros are equal. -/
def sameNumber (x y : Finite) : Bool :=
  (x.isZero && y.isZero) || x == y

end Binary64.Finite

namespace Binary64

/-- The double with the given canonical parts; a significand of `2 ^ 53` is carried into the
scale, and what lies beyond the greatest scale is infinite. -/
def ofParts (negative : Bool) (significand scale : Nat) : Binary64 :=
  if h : significand < 1 <<< 53 ∧ scale ≤ 2045 ∧ (scale = 0 ∨ 1 <<< 52 ≤ significand) then
    .finite ⟨negative, significand, scale, h.1, h.2.1, h.2.2⟩
  else if h : significand = 1 <<< 53 ∧ scale < 2045 then
    .finite ⟨negative, 1 <<< 52, scale + 1, by decide, by omega, .inr (by decide)⟩
  else .infinite negative

/-- The integer nearest to `numerator / denominator`, a tie going to the even one. -/
def roundHalfEven (numerator denominator : Nat) : Nat :=
  let quotient := numerator / denominator
  let remainder := numerator % denominator
  if denominator < 2 * remainder ∨ (2 * remainder = denominator ∧ quotient % 2 = 1) then
    quotient + 1
  else quotient

/-- The double nearest to `± numerator / denominator`, a tie going to the even significand. -/
def ofRatio (negative : Bool) (numerator denominator : Nat) : Binary64 :=
  let scaled := numerator * Finite.unit
  let scale := Nat.log2 (scaled / denominator) - 52
  ofParts negative (roundHalfEven scaled (denominator <<< scale)) scale

/-- The double nearest to an integer. -/
def ofInt (n : Int) : Binary64 := ofRatio (decide (n < 0)) n.natAbs 1

/-- Equality of values: the two zeros are equal, and nothing equals the result of an invalid
operation. -/
def sameNumber : Binary64 → Binary64 → Bool
  | .finite x, .finite y => x.sameNumber y
  | .infinite s, .infinite t => s == t
  | _, _ => false

/-- The integer nearest to the number, a half going away from zero, clamped to `0 ..= bound`;
an invalid result counts as zero. -/
def clampRound (bound : Nat) : Binary64 → Nat
  | .finite x => if x.negative then 0 else min x.roundHalfUp bound
  | .infinite negative => if negative then 0 else bound
  | .nan => 0

/-- A number other than zero; an invalid result is one. -/
def isNonzero : Binary64 → Bool
  | .finite x => !x.isZero
  | _ => true

end Binary64

end SearchBridge
