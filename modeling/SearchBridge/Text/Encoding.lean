/-!
# Texts, bytes and digits

How texts, bytes and numbers stand for one another.

A byte sequence is read as UTF-8, that is as a list of glyphs: the characters that its well-formed
parts encode, and `none` for every byte that belongs to no character. Reading what a text encodes
gives its characters.

In base sixteen, digits are read in either case; a number is written in small digits and a byte as
two capital ones. In base 64 every three bytes are four digits, and a shorter rest is filled up with
equals signs.
-/

/-! ### UTF-8 -/

namespace SearchBridge.Utf8

/-- A character of a text, or a byte that is part of none. -/
abbrev Glyph := Option Char

/-- The glyphs of a text. -/
def glyphs (s : String) : List Glyph := s.toList.map some

/-- The payload of a continuation byte. -/
def continuation? (b : UInt8) : Option Nat :=
  if 0x80 ≤ b ∧ b < 0xC0 then some (b.toNat - 0x80) else none

/-- The character with a code point that a sequence of the given length may encode: no shorter
sequence encodes it, and it is a scalar value. -/
def scalar? (least code : Nat) : Option Char :=
  if least ≤ code ∧ code.isValidChar then some (Char.ofNat code) else none

/-- The character that a byte and its followers encode, with the bytes after it. -/
def next? (b : UInt8) (rest : List UInt8) : Option (Char × List UInt8) :=
  if b < 0x80 then some (Char.ofNat b.toNat, rest)
  else match rest with
    | [] => none
    | c :: rest => do
      let x ← continuation? c
      if 0xC0 ≤ b ∧ b < 0xE0 then
        let char ← scalar? 0x80 ((b.toNat - 0xC0) * 64 + x)
        return (char, rest)
      else match rest with
        | [] => none
        | d :: rest => do
          let y ← continuation? d
          if 0xE0 ≤ b ∧ b < 0xF0 then
            let char ← scalar? 0x800 (((b.toNat - 0xE0) * 64 + x) * 64 + y)
            return (char, rest)
          else match rest with
            | [] => none
            | e :: rest => do
              let z ← continuation? e
              if 0xF0 ≤ b ∧ b < 0xF8 then
                let char ← scalar? 0x10000 ((((b.toNat - 0xF0) * 64 + x) * 64 + y) * 64 + z)
                return (char, rest)
              else none

/-- The glyphs of a byte sequence; `fuel` bounds the number of glyphs. -/
def decodeFrom : Nat → List UInt8 → List Glyph
  | 0, _ => []
  | _, [] => []
  | fuel + 1, b :: rest =>
    match next? b rest with
    | some (char, rest) => some char :: decodeFrom fuel rest
    | none => none :: decodeFrom fuel rest

/-- The glyphs of a byte sequence. -/
def decode (bytes : List UInt8) : List Glyph := decodeFrom bytes.length bytes

/-- The number of bytes that a glyph stands for. -/
def glyphSize : Glyph → Nat
  | none => 1
  | some c => c.utf8Size

/-- Whether a list of glyphs stands for at least `n` bytes. -/
def hasBytes : Nat → List Glyph → Bool
  | 0, _ => true
  | _, [] => false
  | n + 1, u :: rest => hasBytes (n + 1 - glyphSize u) rest
termination_by _ rest => rest.length

/-- The text of a byte sequence that is well formed throughout. -/
def text? (bytes : List UInt8) : Option String :=
  ((decode bytes).mapM id).map String.ofList

end SearchBridge.Utf8

/-! ### Hexadecimal digits -/

namespace SearchBridge.Hex

/-- The value of a hexadecimal digit. -/
def value? (c : Char) : Option Nat :=
  if c.isDigit then some (c.toNat - 48)
  else if 'a' ≤ c ∧ c ≤ 'f' then some (c.toNat - 87)
  else if 'A' ≤ c ∧ c ≤ 'F' then some (c.toNat - 55)
  else none

/-- The number that digits write; no digits write zero. -/
def number? (digits : List Char) : Option Nat :=
  digits.foldlM (fun n c => (value? c).map (16 * n + ·)) 0

/-- The lower-case digits of a number, without zeros in front. -/
def lower (n : Nat) : List Char := Nat.toDigits 16 n

/-- The two upper-case digits of a byte. -/
def upperPair (b : UInt8) : List Char :=
  [(Nat.digitChar (b.toNat / 16)).toUpper, (Nat.digitChar (b.toNat % 16)).toUpper]

end SearchBridge.Hex

/-! ### Base 64 -/

namespace SearchBridge.Base64

/-- The digits: capital letters, small letters, decimal digits, plus sign and slash. -/
def digit (n : Nat) : Char :=
  if n < 26 then Char.ofNat (65 + n)
  else if n < 52 then Char.ofNat (71 + n)
  else if n < 62 then Char.ofNat (n - 4)
  else if n = 62 then '+'
  else '/'

/-- The digits of bytes. -/
def encode : List UInt8 → List Char
  | [] => []
  | [a] =>
    let n := a.toNat * 65536
    [digit (n / 262144), digit (n / 4096 % 64), '=', '=']
  | [a, b] =>
    let n := a.toNat * 65536 + b.toNat * 256
    [digit (n / 262144), digit (n / 4096 % 64), digit (n / 64 % 64), '=']
  | a :: b :: c :: rest =>
    let n := a.toNat * 65536 + b.toNat * 256 + c.toNat
    digit (n / 262144) :: digit (n / 4096 % 64) :: digit (n / 64 % 64) :: digit (n % 64) ::
      encode rest

end SearchBridge.Base64
