import SearchBridge.Numeric.Literal
import SearchBridge.Text.Basic
import SearchBridge.Text.Encoding

/-!
# Numeric hosts

A host may be a number: an address of 32 bits in up to four parts, or one of 128 bits in eight
pieces. Each has many spellings, and one that it is written in.
-/

namespace SearchBridge.Url

/-! ## Addresses of 32 bits -/

/-- A number in base sixteen after `0x`, in base eight after another zero, or else in base ten; a
base without digits stands for zero. -/
def part? (cs : List Char) : Option Nat :=
  match cs with
  | '0' :: 'x' :: rest => Hex.number? rest
  | '0' :: 'X' :: rest => Hex.number? rest
  | '0' :: d :: rest =>
    (d :: rest).foldlM (fun n c =>
      (Literal.digit? c).bind fun d => if d < 8 then some (8 * n + d) else none) 0
  | cs => Literal.digits? cs

/-- The parts of a host between its points, without an empty last one. -/
def parts (cs : List Char) : List (List Char) :=
  match (Text.splitAt '.' cs).reverse with
  | [] :: earlier => earlier.reverse
  | all => all.reverse

/-- Whether the last part of a host is a number, so that it has to be an address. -/
def endsInNumber (cs : List Char) : Bool :=
  match (parts cs).getLast? with
  | none => false
  | some last => (!last.isEmpty && last.all Char.isDigit) || (part? last).isSome

/-- The address of 32 bits that a host writes: every part but the last is one byte, and the last
one fills the remaining bytes. -/
def address32? (cs : List Char) : Option Nat := do
  let numbers ← (parts cs).mapM part?
  let last ← numbers.getLast?
  let bytes := numbers.dropLast
  guard (numbers.length ≤ 4)
  guard (bytes.all fun b => decide (b < 256))
  guard (last < 1 <<< (8 * (4 - bytes.length)))
  return bytes.foldl (fun n b => 256 * n + b) 0 <<< (8 * (4 - bytes.length)) + last

/-- The four bytes of an address of 32 bits in base ten, with points between them. -/
def address32Text (address : Nat) : String :=
  ".".intercalate ([24, 16, 8, 0].map fun shift => toString ((address >>> shift) % 256))

/-! ## Addresses of 128 bits -/

/-- A byte in base ten without zeros in front. -/
def byte? (cs : List Char) : Option Nat := do
  let n ← Literal.digits? cs
  guard (n < 256)
  guard (cs.length = 1 ∨ cs.head? ≠ some '0')
  return n

/-- The pieces between the colons of one half of an address: up to four digits each, except that
the last two may be written as four bytes. -/
def pieces? (cs : List Char) : Option (List Nat) :=
  if cs.isEmpty then some []
  else do
    let groups := Text.splitAt ':' cs
    let piece? (group : List Char) : Option Nat := do
      guard (1 ≤ group.length ∧ group.length ≤ 4)
      Hex.number? group
    let last ← groups.getLast?
    let front ← groups.dropLast.mapM piece?
    if '.' ∈ last then
      match ← (Text.splitAt '.' last).mapM byte? with
      | [a, b, c, d] => return front ++ [256 * a + b, 256 * c + d]
      | _ => none
    else return front ++ [← piece? last]

/-- The characters before the first double colon, and those after it. -/
def splitGap : List Char → Option (List Char × List Char)
  | [] => none
  | ':' :: ':' :: rest => some ([], rest)
  | c :: rest => (splitGap rest).map fun (before, after) => (c :: before, after)

/-- The eight pieces of an address of 128 bits; a double colon stands for one or more zeros. -/
def address128? (cs : List Char) : Option (List Nat) :=
  match splitGap cs with
  | none => do
    let pieces ← pieces? cs
    guard (pieces.length = 8)
    return pieces
  | some (before, after) => do
    let front ← pieces? before
    let back ← pieces? after
    guard (front.length + back.length ≤ 7)
    guard ('.' ∉ before)
    return front ++ List.replicate (8 - front.length - back.length) 0 ++ back

/-- The number of zeros that a list of pieces starts with. -/
def zerosAhead (pieces : List Nat) : Nat := (pieces.takeWhile (· == 0)).length

/-- The longest run of zeros at or after a position, as its start and length; the first one wins. -/
def longestZeros : Nat → List Nat → Nat × Nat
  | start, [] => (start, 0)
  | start, piece :: rest =>
    let here := zerosAhead (piece :: rest)
    let later := longestZeros (start + 1) rest
    if later.2 ≤ here then (start, here) else later

/-- Pieces in base sixteen with colons between them. -/
def piecesText (pieces : List Nat) : String :=
  ":".intercalate (pieces.map fun p => String.ofList (Hex.lower p))

/-- An address of 128 bits; the first longest run of at least two zeros is left out. -/
def address128Text (pieces : List Nat) : String :=
  let (start, length) := longestZeros 0 pieces
  if length < 2 then piecesText pieces
  else piecesText (pieces.take start) ++ "::" ++ piecesText (pieces.drop (start + length))

end SearchBridge.Url
