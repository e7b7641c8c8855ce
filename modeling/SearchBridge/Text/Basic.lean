/-!
# Parts of texts

What a text is taken apart into. A character is blank when it is white space in any script; texts
are trimmed at both ends of blank characters, or at one end of a given character. A text is cut at
every place where a separator stands. A block of words gives a word for each of some consecutive
characters; it is written as the first of them and the words, with a space between each two.
-/

namespace SearchBridge.Text

/-! ### Blank characters -/

/-- Ranges of the white space characters, ends included. -/
def blankRanges : List (Nat × Nat) := [
  (0x9, 0xD), (0x20, 0x20), (0x85, 0x85), (0xA0, 0xA0), (0x1680, 0x1680), (0x2000, 0x200A),
  (0x2028, 0x2029), (0x202F, 0x202F), (0x205F, 0x205F), (0x3000, 0x3000)]

/-- Whether a code point lies in one of the ranges. -/
def inRanges (ranges : List (Nat × Nat)) (code : Nat) : Bool :=
  ranges.any fun r => decide (r.1 ≤ code ∧ code ≤ r.2)

/-- A white space character. -/
def isBlank (c : Char) : Bool := inRanges blankRanges c.toNat

/-- The characters before the last ones that satisfy a condition. -/
def dropEnd (p : Char → Bool) (cs : List Char) : List Char := (cs.reverse.dropWhile p).reverse

/-- A text without the characters at its end that satisfy a condition. -/
def trimEnd (p : Char → Bool) (s : String) : String := String.ofList (dropEnd p s.toList)

/-- A text without the characters at its start that satisfy a condition. -/
def trimStart (p : Char → Bool) (s : String) : String := String.ofList (s.toList.dropWhile p)

/-- A text without blank characters at its ends. -/
def trim (s : String) : String := trimStart isBlank (trimEnd isBlank s)

/-! ### Pieces and words -/

/-- The pieces of a text between the places where a separator stands. -/
def splitAt (separator : Char) : List Char → List (List Char)
  | [] => [[]]
  | c :: rest =>
    if c = separator then [] :: splitAt separator rest
    else
      match splitAt separator rest with
      | [] => [[c]]
      | piece :: pieces => (c :: piece) :: pieces

/-- Words for the character with code point `first` and for those after it. -/
structure WordBlock where
  first : Nat
  words : List (List Char)
  deriving DecidableEq

namespace WordBlock

/-- The block with words that spaces separate. -/
def of (first : Nat) (words : String) : WordBlock := ⟨first, splitAt ' ' words.toList⟩

/-- The word for a code point, if it is in the block. -/
def word? (b : WordBlock) (code : Nat) : Option (List Char) :=
  if b.first ≤ code then b.words[code - b.first]? else none

/-- The first code point in the block with a given word. -/
def code? (b : WordBlock) (word : List Char) : Option Nat :=
  (b.words.findIdx? (· = word)).map (b.first + ·)

end WordBlock

end SearchBridge.Text
