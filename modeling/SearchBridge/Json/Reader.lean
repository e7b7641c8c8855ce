import SearchBridge.Json.Raw
import SearchBridge.Text.Encoding

/-!
# Reading JSON

A text is read into a `Json.Raw` tree in one pass over its glyphs. Strings go through an automaton
with one glyph a step; a lone surrogate or a byte outside UTF-8 spoils a string without ending it.
Arrays and objects may nest 127 levels deep in the parts that are looked at; a deeper one is
`unusable`. A number beyond the range of doubles is `unusable` as well.
-/

namespace SearchBridge

namespace Json

open Utf8 (Glyph)

/-- The blanks that JSON allows between tokens. -/
def isBlank (u : Glyph) : Bool :=
  u == some ' ' || u == some '\n' || u == some '\t' || u == some '\r'

/-- The glyphs after leading blanks. -/
def skipBlanks (glyphs : List Glyph) : List Glyph := glyphs.dropWhile isBlank

/-! ## Strings -/

/-- Where the automaton stands inside a string. -/
inductive Quoted where
  /-- Between characters. -/
  | plain
  /-- After a backslash. -/
  | escape
  /-- Inside `\u`, with `left` digits to come, and the leading surrogate before it, if any. -/
  | hex (lead : Option Nat) (left value : Nat)
  /-- After a leading surrogate, where another `\u` has to follow. -/
  | paired (lead : Nat)
  /-- After a leading surrogate and a backslash. -/
  | pairedEscape (lead : Nat)

/-- What one glyph does to a string. -/
inductive Quoted.Move where
  | close
  | go (next : Quoted) (out : List Char)
  | fail (error : Error)

/-- The step between characters, and whether the glyph spoils the string. -/
def Quoted.stepPlain : Glyph → Bool × Quoted.Move
  | none => (true, .go .plain [])
  | some c =>
    if c = '"' then (false, .close)
    else if c = '\\' then (false, .go .escape [])
    else if c.toNat < 32 then (false, .fail .malformed)
    else (false, .go .plain [c])

/-- The step after a backslash; `room` tells whether four more bytes follow. -/
def Quoted.stepEscape (room : Bool) : Glyph → Quoted.Move
  | some '"' => .go .plain ['"']
  | some '\\' => .go .plain ['\\']
  | some '/' => .go .plain ['/']
  | some 'b' => .go .plain [Char.ofNat 8]
  | some 'f' => .go .plain [Char.ofNat 12]
  | some 'n' => .go .plain ['\n']
  | some 'r' => .go .plain ['\r']
  | some 't' => .go .plain ['\t']
  | some 'u' => if room then .go (.hex none 4 0) [] else .fail .ended
  | _ => .fail .malformed

/-- The end of a `\u` escape: a character, a leading surrogate, or a lone surrogate. -/
def Quoted.stepCode (lead : Option Nat) (code : Nat) : Bool × Quoted.Move :=
  let isLead := decide (0xD800 ≤ code ∧ code < 0xDC00)
  let isTrail := decide (0xDC00 ≤ code ∧ code < 0xE000)
  match lead with
  | none =>
    if isTrail then (true, .go .plain [])
    else if isLead then (false, .go (.paired code) [])
    else (false, .go .plain [Char.ofNat code])
  | some first =>
    if isTrail then
      (false, .go .plain [Char.ofNat (0x10000 + (first - 0xD800) * 1024 + (code - 0xDC00))])
    else (true, .go .plain [])

/-- The step that a glyph makes, and whether it spoils the string; `room` tells whether four more
bytes follow it. -/
def Quoted.step (room : Bool) : Quoted → Glyph → Bool × Quoted.Move
  | .plain, u => Quoted.stepPlain u
  | .escape, u => (false, Quoted.stepEscape room u)
  | .hex lead left value, u =>
    match u.bind Hex.value? with
    | none => (false, .fail .malformed)
    | some d =>
      if 1 < left then (false, .go (.hex lead (left - 1) (16 * value + d)) [])
      else Quoted.stepCode lead (16 * value + d)
  | .paired lead, u =>
    if u = some '\\' then (false, .go (.pairedEscape lead) []) else (true, (Quoted.stepPlain u).2)
  | .pairedEscape lead, u =>
    if u = some 'u' then
      (false, if room then .go (.hex (some lead) 4 0) [] else .fail .ended)
    else (true, Quoted.stepEscape room u)

/-- A string as far as it could be read: its characters in reverse order, whether they are its
text, and the glyphs after the closing quote or the error that stopped the reading. -/
structure Quoted.Result where
  reversed : List Char
  usable : Bool
  rest : Except Error (List Glyph)

/-- Reads a string after its opening quote. -/
def Quoted.run : Quoted → List Char → Bool → List Glyph → Quoted.Result
  | _, out, usable, [] => ⟨out, usable, .error .ended⟩
  | state, out, usable, u :: rest =>
    let (spoils, move) := state.step (Utf8.hasBytes 4 rest) u
    let usable := usable && !spoils
    match move with
    | .close => ⟨out, usable, .ok rest⟩
    | .fail e => ⟨out, usable, .error e⟩
    | .go next more => run next (more.reverse ++ out) usable rest

/-- Reads a string after its opening quote. -/
def readQuoted (glyphs : List Glyph) : Quoted.Result := Quoted.run .plain [] true glyphs

/-- The text of a completed string. -/
def Quoted.Result.text (r : Quoted.Result) : String := String.ofList r.reversed.reverse

/-! ## Numbers and literals -/

/-- The value of a decimal digit. -/
def digit? : Glyph → Option Nat
  | some c => if c.isDigit then some (c.toNat - 48) else none
  | none => none

/-- The leading decimal digits, and the glyphs after them. -/
def spanDigits : List Glyph → List Nat × List Glyph
  | [] => ([], [])
  | u :: rest =>
    match digit? u with
    | some d => let (ds, rest) := spanDigits rest; (d :: ds, rest)
    | none => ([], u :: rest)

/-- The number that decimal digits denote. -/
def ofDigits (ds : List Nat) : Nat := ds.foldl (fun n d => 10 * n + d) 0

/-- One or more digits: at the end of the text more is due, before anything else it is no
number. -/
def someDigits (glyphs : List Glyph) : Except Error (List Nat × List Glyph) :=
  match spanDigits glyphs with
  | ([], []) => .error .ended
  | ([], _ :: _) => .error .malformed
  | (ds, rest) => .ok (ds, rest)

/-- The digits before the point: a zero stands alone. -/
def wholeDigits (glyphs : List Glyph) : Except Error (List Nat × List Glyph) := do
  let (ds, rest) ← someDigits glyphs
  match ds with
  | 0 :: _ :: _ => .error .malformed
  | _ => return (ds, rest)

/-- The digits after a point, if there is one. -/
def fractionDigits : List Glyph → Except Error (Option (List Nat) × List Glyph)
  | some '.' :: rest => do
    let (ds, rest) ← someDigits rest
    return (some ds, rest)
  | glyphs => return (none, glyphs)

/-- The exponent, if there is one. -/
def exponentPart : List Glyph → Except Error (Option Int × List Glyph)
  | u :: rest =>
    if u = some 'e' ∨ u = some 'E' then do
      let (negative, rest) := match rest with
        | some '+' :: rest => (false, rest)
        | some '-' :: rest => (true, rest)
        | rest => (false, rest)
      let (ds, rest) ← someDigits rest
      return (some (if negative then -(ofDigits ds : Int) else ofDigits ds), rest)
    else return (none, u :: rest)
  | [] => return (none, [])

/-- A number from its parts: an integer without point and exponent in the range of 64-bit words
stays one, except for a negative zero; all else is the nearest double, which has to be finite. -/
def numberOfParts (negative : Bool) (whole : List Nat) (fraction : Option (List Nat))
    (exponent : Option Int) : Option Number :=
  let n := ofDigits whole
  let asDouble (d : Decimal) : Option Number :=
    match d.toBinary64 negative with
    | .finite x => some (.float x)
    | _ => none
  match fraction, exponent with
  | none, none =>
    if negative then
      if 0 < n ∧ Int64.minValue.toInt ≤ -(n : Int) then some (.integer (-(n : Int)))
      else asDouble ⟨n, 0⟩
    else if n < UInt64.size then some (.integer n)
    else asDouble ⟨n, 0⟩
  | _, _ =>
    let places := fraction.getD []
    asDouble ⟨ofDigits (whole ++ places), exponent.getD 0 - places.length⟩

/-- Reads a number after its sign. -/
def readNumber (negative : Bool) (glyphs : List Glyph) :
    Except Error (Option Number × List Glyph) := do
  let (whole, rest) ← wholeDigits glyphs
  let (fraction, rest) ← fractionDigits rest
  let (exponent, rest) ← exponentPart rest
  return (numberOfParts negative whole fraction exponent, rest)

/-- The glyphs after an expected word. -/
def expect : List Char → List Glyph → Except Error (List Glyph)
  | [], glyphs => .ok glyphs
  | _ :: _, [] => .error .ended
  | c :: cs, u :: rest => if u = some c then expect cs rest else .error .malformed

/-! ## Values -/

/-- A part that was read, and the glyphs after it unless the text broke off inside it. -/
abbrev Step (α : Type) := α × Option (List Glyph)

/-- A leaf, unless the text broke off in it. -/
def leaf : Except Error (Raw × List Glyph) → Step Raw
  | .ok (r, rest) => (r, some rest)
  | .error e => (.broken e, none)

/-- A string as a tree. -/
def Quoted.Result.step (r : Quoted.Result) : Step Raw :=
  match r.rest, r.usable with
  | .ok rest, true => (.string r.text, some rest)
  | .ok rest, false => (.unusable none, some rest)
  | .error e, true => (.broken e, none)
  | .error e, false => (.unusable (some e), none)

/-- A nested array or object: one that stands too deep is of no use. -/
def nested (room : Nat) (part : Step Raw) : Step Raw :=
  if room = 0 then (.unusable part.1.skipError?, part.2) else part

mutual

/-- Reads a value. `fuel` bounds the glyphs to be read and `room` is the number of levels that may
still be opened. -/
def readValue : Nat → Nat → List Glyph → Step Raw
  | 0, _, _ => (.broken .ended, none)
  | fuel + 1, room, glyphs =>
    match skipBlanks glyphs with
    | [] => (.broken .ended, none)
    | u :: rest =>
      match u with
      | some 'n' => leaf ((expect ['u', 'l', 'l'] rest).map fun rest => (.null, rest))
      | some 't' => leaf ((expect ['r', 'u', 'e'] rest).map fun rest => (.bool true, rest))
      | some 'f' => leaf ((expect ['a', 'l', 's', 'e'] rest).map fun rest => (.bool false, rest))
      | some '"' => (readQuoted rest).step
      | some '[' =>
        let (items, rest) := readItems fuel (room - 1) true rest
        nested room (.array items, rest)
      | some '\x7b' =>
        let (members, rest) := readMembers fuel (room - 1) true rest
        nested room (.object members, rest)
      | _ =>
        let isMinus := u == some '-'
        if isMinus || (digit? u).isSome then
          leaf ((readNumber isMinus (if isMinus then rest else u :: rest)).map fun (n, rest) =>
            (match n with | some n => .number n | none => .unusable none, rest))
        else (.broken .malformed, none)

/-- Reads the items of an array up to its closing bracket. -/
def readItems : Nat → Nat → Bool → List Glyph → Step (List Raw)
  | 0, _, _, _ => ([.broken .ended], none)
  | fuel + 1, room, first, glyphs =>
    match skipBlanks glyphs with
    | [] => ([.broken .ended], none)
    | u :: rest =>
      if u = some ']' then ([], some rest)
      else if first || u == some ',' then
        let glyphs := if first then u :: rest else skipBlanks rest
        if !first && glyphs.head? == some (some ']') then ([.broken .malformed], none)
        else
          match readValue fuel room glyphs with
          | (item, none) => ([item], none)
          | (item, some rest) =>
            let (items, rest) := readItems fuel room false rest
            (item :: items, rest)
      else ([.broken .malformed], none)

/-- Reads the members of an object up to its closing brace. -/
def readMembers : Nat → Nat → Bool → List Glyph → Step (List (Option String × Raw))
  | 0, _, _, _ => ([(none, .broken .ended)], none)
  | fuel + 1, room, first, glyphs =>
    match skipBlanks glyphs with
    | [] => ([(none, .broken .ended)], none)
    | u :: rest =>
      if u = some '\x7d' then ([], some rest)
      else if first || u == some ',' then
        match (if first then u :: rest else skipBlanks rest) with
        | [] => ([(none, .broken .ended)], none)
        | u :: rest =>
          if u = some '"' then
            let name := readQuoted rest
            match name.rest with
            | .error _ => ([(none, name.step.1)], none)
            | .ok rest =>
              let key := if name.usable then some name.text else none
              match skipBlanks rest with
              | [] => ([(none, .broken .ended)], none)
              | u :: rest =>
                if u = some ':' then
                  match readValue fuel room rest with
                  | (value, none) => ([(key, value)], none)
                  | (value, some rest) =>
                    let (members, rest) := readMembers fuel room false rest
                    ((key, value) :: members, rest)
                else ([(none, .broken .malformed)], none)
          else ([(none, .broken .malformed)], none)
      else ([(none, .broken .malformed)], none)

end

/-- The levels of arrays and objects that a value may have. -/
def maximalDepth : Nat := 127

/-- The value at the start of a text, and the glyphs after it. -/
def readStart (glyphs : List Glyph) : Step Raw :=
  readValue (2 * glyphs.length + 2) maximalDepth glyphs

/-- Decodes a text that holds one value: errors are those of the decoder, in the order of the
text, and then that of anything but blanks after the value. -/
def decodeUnits {α : Type} (decode : Raw → Except Error α) (glyphs : List Glyph) :
    Except Error α :=
  match readStart glyphs with
  | (r, rest) => do
    let x ← (decode r).mapError Error.inText
    match rest with
    | none => .error .ended
    | some rest => if (skipBlanks rest).isEmpty then return x else .error .malformed

/-- Decodes a text that holds one value. -/
def decodeText {α : Type} (decode : Raw → Except Error α) (text : String) : Except Error α :=
  decodeUnits decode (Utf8.glyphs text)

/-- Decodes a byte sequence that holds one value. -/
def decodeBytes {α : Type} (decode : Raw → Except Error α) (bytes : List UInt8) :
    Except Error α :=
  decodeUnits decode (Utf8.decode bytes)

/-- The value that a text holds, each repeated key with its last value. -/
def ofText (text : String) : Except Error Json := decodeText Raw.value text

end Json

end SearchBridge
