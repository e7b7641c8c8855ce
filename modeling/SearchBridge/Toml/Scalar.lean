import SearchBridge.Toml.Text

/-!
# Numbers and dates of TOML

A token of letters, digits and signs is a number, a truth value, a date or a time. Underscores may
stand between digits. A date is kept as its text in the normal form: an upper-case `T` before the
time, an upper-case `Z` for the universal time, and no zeros at the end of a fraction of a second.
-/

namespace SearchBridge.Toml

/-- A value without parts. -/
inductive Scalar where
  | string (text : String)
  | integer (value : Int)
  | float (value : Binary64)
  | boolean (value : Bool)
  | date (text : String)
  deriving DecidableEq

/-- The digits of a number without the underscores between them. -/
def plainDigits? (isDigit : Char → Bool) : List Char → Option (List Char)
  | [] => none
  | [c] => if isDigit c then some [c] else none
  | c :: '_' :: rest =>
    if isDigit c then (plainDigits? isDigit rest).map (c :: ·) else none
  | c :: rest => if isDigit c then (plainDigits? isDigit rest).map (c :: ·) else none

/-- The value of a digit below a base. -/
def digitBelow? (base : Nat) (c : Char) : Option Nat := do
  let d ← if c.isDigit then some (c.toNat - 48)
    else if 'a' ≤ c ∧ c ≤ 'f' then some (c.toNat - 87)
    else if 'A' ≤ c ∧ c ≤ 'F' then some (c.toNat - 55)
    else none
  if d < base then some d else none

/-- A natural number in a base. -/
def natural? (base : Nat) (cs : List Char) : Option Nat := do
  let digits ← plainDigits? (fun c => (digitBelow? base c).isSome) cs
  digits.foldlM (fun n c => (digitBelow? base c).map (base * n + ·)) 0

/-- Decimal digits in which a zero stands first only if it stands alone. -/
def wholeDigits? (cs : List Char) : Option (List Char) := do
  let digits ← plainDigits? Char.isDigit cs
  match digits with
  | '0' :: _ :: _ => none
  | _ => some digits

/-- An integer in the range of 64-bit words. -/
def inWord? (n : Int) : Option Scalar :=
  if Int64.minValue.toInt ≤ n ∧ n ≤ Int64.maxValue.toInt then some (.integer n) else none

/-- An integer; one in another base has no sign. -/
def integer? : List Char → Option Scalar
  | '0' :: 'x' :: cs => (natural? 16 cs).bind fun n => inWord? n
  | '0' :: 'o' :: cs => (natural? 8 cs).bind fun n => inWord? n
  | '0' :: 'b' :: cs => (natural? 2 cs).bind fun n => inWord? n
  | cs => do
    let (negative, cs) := Literal.sign cs
    let n ← Literal.digits? (← wholeDigits? cs)
    inWord? (if negative then -(n : Int) else n)

/-- The exponent after its mark. -/
def exponent? (cs : List Char) : Option Int := do
  let (negative, cs) := Literal.sign cs
  let n ← Literal.digits? (← plainDigits? Char.isDigit cs)
  return if negative then -(n : Int) else n

/-- A float: an integer with a fraction, an exponent or both, or a named number. -/
def float? (cs : List Char) : Option Scalar := do
  let (negative, cs) := Literal.sign cs
  if cs = ['i', 'n', 'f'] then return .float (.infinite negative)
  if cs = ['n', 'a', 'n'] then return .float .nan
  let isMark (c : Char) : Bool := c == 'e' || c == 'E'
  let mantissa := cs.takeWhile fun c => !isMark c
  let exponent ← match cs.dropWhile fun c => !isMark c with
    | [] => some none
    | _ :: cs => (exponent? cs).map some
  let whole ← wholeDigits? (mantissa.takeWhile (· != '.'))
  let fraction ← match mantissa.dropWhile (· != '.') with
    | [] => some none
    | _ :: cs => (plainDigits? Char.isDigit cs).map some
  guard (exponent.isSome ∨ fraction.isSome)
  let places := fraction.getD []
  let digits ← Literal.digits? (whole ++ places)
  let value := Decimal.toBinary64 negative ⟨digits, exponent.getD 0 - places.length⟩
  guard (value ≠ .infinite false)
  return .float value

/-- A number of exactly `count` decimal digits, and the characters after it. -/
def fixed? (count : Nat) (cs : List Char) : Option (Nat × List Char) := do
  guard (count ≤ cs.length)
  return (← Literal.digits? (cs.take count), cs.drop count)

/-- The characters after an expected one. -/
def after? (c : Char) : List Char → Option (List Char)
  | [] => none
  | d :: rest => if d = c then some rest else none

/-- The number of days of a month. -/
def daysIn (year month : Nat) : Nat :=
  if month = 2 then
    if year % 4 = 0 ∧ (year % 100 ≠ 0 ∨ year % 400 = 0) then 29 else 28
  else if month = 4 ∨ month = 6 ∨ month = 9 ∨ month = 11 then 30
  else 31

/-- A date of the calendar: its text, and the characters after it. -/
def day? (cs : List Char) : Option (String × List Char) := do
  let (year, rest) ← fixed? 4 cs
  let (month, rest) ← fixed? 2 (← after? '-' rest)
  let (day, rest) ← fixed? 2 (← after? '-' rest)
  guard (1 ≤ month ∧ month ≤ 12 ∧ 1 ≤ day ∧ day ≤ daysIn year month)
  return (String.ofList (cs.take 10), rest)

/-- The fraction of a second to nine places, without zeros at its end. -/
def secondFraction? : List Char → Option (String × List Char)
  | '.' :: rest =>
    match rest.takeWhile Char.isDigit with
    | [] => none
    | digits =>
      let kept := ((digits.take 9).reverse.dropWhile (· == '0')).reverse
      some (if kept.isEmpty then "" else "." ++ String.ofList kept, rest.dropWhile Char.isDigit)
  | cs => some ("", cs)

/-- A time of the day: its text, and the characters after it. -/
def time? (cs : List Char) : Option (String × List Char) := do
  let (hour, rest) ← fixed? 2 cs
  let (minute, rest) ← fixed? 2 (← after? ':' rest)
  let (second, rest) ← fixed? 2 (← after? ':' rest)
  guard (hour ≤ 23 ∧ minute ≤ 59 ∧ second ≤ 60)
  let (fraction, rest) ← secondFraction? rest
  return (String.ofList (cs.take 8) ++ fraction, rest)

/-- A distance from the universal time, if there is one: its text. -/
def offset? : List Char → Option String
  | [] => some ""
  | ['Z'] => some "Z"
  | ['z'] => some "Z"
  | sign :: cs => do
    guard (sign = '+' ∨ sign = '-')
    let (hour, rest) ← fixed? 2 cs
    let (minute, rest) ← fixed? 2 (← after? ':' rest)
    guard (hour ≤ 23 ∧ minute ≤ 59 ∧ rest = [])
    return String.ofList (sign :: cs)

/-- A date, a time, or both with or without a distance from the universal time. -/
def date? (cs : List Char) : Option Scalar :=
  match day? cs with
  | some (day, []) => some (.date day)
  | some (day, mark :: rest) => do
    guard (mark = 'T' ∨ mark = 't' ∨ mark = ' ')
    let (time, rest) ← time? rest
    return .date (day ++ "T" ++ time ++ (← offset? rest))
  | none => do
    let (time, rest) ← time? cs
    guard (rest = [])
    return .date time

/-- A character of a number, a date or a truth value. -/
def isTokenChar (c : Char) : Bool :=
  c.isAlphanum || c == '+' || c == '-' || c == '_' || c == '.' || c == ':'

/-- The value of a token. -/
def token? (cs : List Char) : Option Scalar :=
  if cs = ['t', 'r', 'u', 'e'] then some (.boolean true)
  else if cs = ['f', 'a', 'l', 's', 'e'] then some (.boolean false)
  else (date? cs).or ((float? cs).or (integer? cs))

/-- A token with the characters after it; a blank may separate a date from its time. -/
def scanToken (cs : List Char) : List Char × List Char :=
  let token := cs.takeWhile isTokenChar
  match (day? token).map Prod.snd, cs.dropWhile isTokenChar with
  | some [], ' ' :: rest =>
    match rest.takeWhile isTokenChar with
    | d :: more =>
      if d.isDigit then (token ++ ' ' :: d :: more, rest.dropWhile isTokenChar)
      else (token, ' ' :: rest)
    | [] => (token, ' ' :: rest)
  | _, rest => (token, rest)

/-- A value without parts. -/
def scalarValue? (cs : List Char) : Option (Scalar × List Char) :=
  match string? cs with
  | some (text, rest) => some (.string text, rest)
  | none =>
    let (token, rest) := scanToken cs
    (token? token).map fun value => (value, rest)

end SearchBridge.Toml
