/-!
# Punycode

A label with characters beyond ASCII is written in ASCII: its ASCII characters in order, then the
others in increasing order, each as the distance that an insertion position and a code point have
moved since the one before. Distances are numbers of variable length in base 36, with the low digits
first, whose digits end at thresholds that follow a bias; the bias adapts to the distances seen.
-/

namespace SearchBridge.Url.Punycode

/-- The digits of base 36: the letters, then the decimal digits. -/
def digit (n : Nat) : Char := if n < 26 then Char.ofNat (97 + n) else Char.ofNat (22 + n)

/-- The value of a digit in either case. -/
def value? (c : Char) : Option Nat :=
  if 'a' ≤ c ∧ c ≤ 'z' then some (c.toNat - 97)
  else if 'A' ≤ c ∧ c ≤ 'Z' then some (c.toNat - 65)
  else if c.isDigit then some (c.toNat - 22)
  else none

/-- The digits below the threshold at a position end a number. -/
def threshold (bias position : Nat) : Nat := max 1 (min 26 (position - bias))

/-- The reduced distance, and the position that it stands for. -/
def reduce (distance position : Nat) : Nat × Nat :=
  if 455 < distance then reduce (distance / 35) (position + 36) else (distance, position)
termination_by distance
decreasing_by omega

/-- The bias after a distance when so many characters are in place; the first distance counts less
than the others. -/
def adapt (distance count : Nat) (isFirst : Bool) : Nat :=
  let distance := if isFirst then distance / 700 else distance / 2
  let (distance, position) := reduce (distance + distance / count) 0
  position + 36 * distance / (distance + 38)

/-- The digits of a distance from a position on. -/
def writeFrom (bias position distance : Nat) : List Char :=
  if distance < threshold bias position then [digit distance]
  else
    let excess := distance - threshold bias position
    let range := 36 - threshold bias position
    digit (threshold bias position + excess % range) ::
      writeFrom bias (position + 36) (excess / range)
termination_by distance
decreasing_by
  have low : 1 ≤ threshold bias position := Nat.le_max_left ..
  exact Nat.lt_of_le_of_lt (Nat.div_le_self ..) (by omega)

/-- A run of the encoder. -/
structure Encoder where
  out : List Char := []
  distance : Nat := 0
  bias : Nat := 72
  /-- The number of characters in place. -/
  count : Nat

/-- Passes a character while the characters with a code point are put in place. -/
def Encoder.pass (basic code : Nat) (e : Encoder) (c : Char) : Encoder :=
  if c.toNat < code then { e with distance := e.distance + 1 }
  else if c.toNat = code then {
    out := e.out ++ writeFrom e.bias 36 e.distance
    distance := 0
    bias := adapt e.distance (e.count + 1) (e.count = basic)
    count := e.count + 1 }
  else e

/-- Puts the characters with the given code points in place; the codes before `code` are done. -/
def Encoder.insertAll (label : List Char) (basic : Nat) : Nat → List Nat → Encoder → Encoder
  | _, [], e => e
  | code, next :: codes, e =>
    let e := { e with distance := e.distance + (next - code) * (e.count + 1) }
    let e := label.foldl (Encoder.pass basic next) e
    insertAll label basic (next + 1) codes { e with distance := e.distance + 1 }

/-- The code points beyond ASCII in increasing order, each one once. -/
def codes (label : List Char) : List Nat :=
  ((label.map Char.toNat).filter (128 ≤ ·)).eraseDups.mergeSort

/-- The ASCII form of a label, without the mark that tells that it is one. -/
def encode (label : List Char) : List Char :=
  let ascii := label.filter fun c => c.toNat < 128
  let separator := if ascii.isEmpty then [] else ['-']
  let e : Encoder := { count := ascii.length }
  ascii ++ separator ++ (e.insertAll label ascii.length 128 (codes label)).out

/-- Reads a distance from a position on; `weight` is the value of the next digit and `sum` the value
of the digits so far. -/
def read? (bias : Nat) : Nat → Nat → Nat → List Char → Option (Nat × List Char)
  | _, _, _, [] => none
  | position, weight, sum, c :: rest => do
    let d ← value? c
    let t := threshold bias position
    if d < t then return (sum + d * weight, rest)
    else read? bias (position + 36) (weight * (36 - t)) (sum + d * weight) rest

/-- Inserts the characters that distances tell; `fuel` bounds their number. -/
def insertFrom? : Nat → Nat → Nat → Nat → List Char → List Char → Option (List Char)
  | _, _, _, _, label, [] => some label
  | 0, _, _, _, _, _ => none
  | fuel + 1, bias, code, start, label, digits => do
    let (distance, digits) ← read? bias 36 1 0 digits
    let count := label.length + 1
    let code := code + (start + distance) / count
    guard (code.isValidChar)
    let place := (start + distance) % count
    let label := label.take place ++ Char.ofNat code :: label.drop place
    insertFrom? fuel (adapt distance count (start = 0)) code (place + 1) label digits

/-- The label that an ASCII form stands for. A hyphen separates the ASCII characters from the
distances only if there are some. -/
def decode? (cs : List Char) : Option (List Char) :=
  let tail := (cs.reverse.takeWhile (· != '-')).reverse
  let ascii := cs.take (cs.length - tail.length - 1)
  let digits := if ascii.isEmpty then cs else tail
  insertFrom? digits.length 72 128 0 ascii digits

end SearchBridge.Url.Punycode
