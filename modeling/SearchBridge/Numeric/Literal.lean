import SearchBridge.Numeric.Decimal

/-!
# Numbers typed by people

Readers of the number texts that options and coordinates use: a sign may precede, a double may
leave out the digits on one side of its point, and infinity and the invalid number have names in
any case. Nothing may surround the number.
-/

namespace SearchBridge.Literal

/-- The value of a decimal digit. -/
def digit? (c : Char) : Option Nat := if c.isDigit then some (c.toNat - 48) else none

/-- The value of a list of decimal digits, none if there are no digits or other characters. -/
def digits? : List Char → Option Nat
  | [] => none
  | c :: cs => (c :: cs).foldlM (fun n c => (digit? c).map (10 * n + ·)) 0

/-- The sign before a number, and the characters after it. -/
def sign : List Char → Bool × List Char
  | '-' :: cs => (true, cs)
  | '+' :: cs => (false, cs)
  | cs => (false, cs)

/-- An integer with an optional sign. -/
def int? (s : String) : Option Int := do
  let (negative, cs) := sign s.toList
  let n ← digits? cs
  return if negative then -(n : Int) else n

/-- A natural number with an optional plus sign. -/
def nat? (s : String) : Option Nat :=
  match s.toList with
  | '+' :: cs => digits? cs
  | cs => digits? cs

/-- The exponent after an exponent mark; no characters stand for no exponent. -/
def exponent? : List Char → Option Int
  | [] => some 0
  | mark :: cs => do
    guard (mark = 'e' ∨ mark = 'E')
    let (negative, cs) := sign cs
    let n ← digits? cs
    return if negative then -(n : Int) else n

/-- A number in decimal notation after its sign, with a digit on at least one side of the point. -/
def decimal? (cs : List Char) : Option Decimal := do
  let whole := cs.takeWhile Char.isDigit
  let rest := cs.dropWhile Char.isDigit
  let (fraction, rest) := match rest with
    | '.' :: rest => (rest.takeWhile Char.isDigit, rest.dropWhile Char.isDigit)
    | rest => ([], rest)
  let digits ← digits? (whole ++ fraction)
  let exponent ← exponent? rest
  return ⟨digits, exponent - fraction.length⟩

/-- A double with an optional sign. -/
def double? (s : String) : Option Binary64 :=
  let (negative, cs) := sign s.toList
  let word := String.ofList (cs.map Char.toLower)
  if word = "inf" ∨ word = "infinity" then some (.infinite negative)
  else if word = "nan" then some .nan
  else (decimal? cs).map (·.toBinary64 negative)

end SearchBridge.Literal
