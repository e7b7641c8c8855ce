import SearchBridge.Text.Basic
import SearchBridge.Text.CombiningClasses
import SearchBridge.Text.Composites

/-!
# Composed form

Texts that look the same have one composed form: every composite is taken apart, the marks on a
character are put in the order of their classes, and what can be composed is composed, from left to
right. Hangul syllables are composed of their letters by calculation.
-/

namespace SearchBridge.Text

/-- The class of a mark, zero for all other characters. -/
def combiningClass (c : Char) : Nat :=
  match combiningClasses.find? fun r => decide (r.1 ≤ c.toNat ∧ c.toNat ≤ r.2.1) with
  | some r => r.2.2
  | none => 0

/-- The parts of a character, itself if it is no composite. -/
def parts (c : Char) : List Char := (compositeBlocks.findSome? (·.word? c.toNat)).getD [c]

/-- Puts a mark among the marks that follow it, before the first one of its class or a higher one;
all other characters stay at the front. -/
def insertMark (c : Char) : List Char → List Char
  | [] => [c]
  | d :: rest =>
    if combiningClass d ≠ 0 ∧ combiningClass d < combiningClass c then d :: insertMark c rest
    else c :: d :: rest

/-- A text with the marks on every character in the order of their classes. -/
def orderMarks : List Char → List Char
  | [] => []
  | c :: rest => insertMark c (orderMarks rest)

/-- The Hangul syllable of two letters, or of a syllable without a final letter and that letter. -/
def hangul? (a b : Char) : Option Char :=
  let (x, y) := (a.toNat, b.toNat)
  if 0x1100 ≤ x ∧ x < 0x1113 ∧ 0x1161 ≤ y ∧ y < 0x1176 then
    some (Char.ofNat (0xAC00 + ((x - 0x1100) * 21 + (y - 0x1161)) * 28))
  else if 0xAC00 ≤ x ∧ x < 0xD7A4 ∧ (x - 0xAC00) % 28 = 0 ∧ 0x11A7 < y ∧ y < 0x11C3 then
    some (Char.ofNat (x + (y - 0x11A7)))
  else none

/-- The character that stands for a character and one on it. -/
def composite? (a b : Char) : Option Char :=
  (hangul? a b).or
    ((compositeBlocks.findSome? (·.code? (parts a ++ [b]))).map Char.ofNat)

/-- Composes a character with those after it that none between keeps away from it; `marks` are
those between, in order. -/
def composeFrom (base : Char) (marks : List Char) : List Char → List Char
  | [] => base :: marks
  | c :: rest =>
    let isFree := match marks.getLast? with
      | none => true
      | some mark => decide (combiningClass mark < combiningClass c)
    match if isFree then composite? base c else none with
    | some composite => composeFrom composite marks rest
    | none =>
      if combiningClass c = 0 then base :: marks ++ composeFrom c [] rest
      else composeFrom base (marks ++ [c]) rest

/-- A text with all that can be composed composed. -/
def compose : List Char → List Char
  | [] => []
  | c :: rest => if combiningClass c = 0 then composeFrom c [] rest else c :: compose rest

/-- The composed form of a text. -/
def composed (cs : List Char) : List Char := compose (orderMarks (cs.flatMap parts))

end SearchBridge.Text
