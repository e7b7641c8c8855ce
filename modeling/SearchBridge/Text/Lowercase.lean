import SearchBridge.Text.Basic
import SearchBridge.Text.CaseRanges
import SearchBridge.Text.LowerRuns

/-!
# Lower case

Full lower-casing of a text. Every character is replaced by its lower-case form; U+0130 has one of
two characters, and a capital sigma becomes the final sigma at the end of a word: when a cased
character precedes it and none follows it, case-ignorable characters between them apart.
-/

namespace SearchBridge.Text

/-- A character with a case. -/
def isCased (c : Char) : Bool := inRanges casedRanges c.toNat

/-- A character that the search for a neighbouring cased one passes over. -/
def isCaseIgnorable (c : Char) : Bool := inRanges caseIgnorableRanges c.toNat

/-- The lower-case form of a character away from the end of a word. -/
def lowerChar (c : Char) : List Char :=
  if c.toNat = 0x130 then ['i', Char.ofNat 0x307]
  else
    match lowerRuns.find? (·.covers c.toNat) with
    | some run => [Char.ofNat (c.toNat + run.shift).toNat]
    | none => [c]

/-- Whether the first character that is not case-ignorable has a case. -/
def nextIsCased (cs : List Char) : Bool :=
  match cs.dropWhile isCaseIgnorable with
  | [] => false
  | c :: _ => isCased c

/-- Lower-casing of the characters after `before`, which holds the characters seen so far in
reverse order. -/
def lowerFrom (before : List Char) : List Char → List Char
  | [] => []
  | c :: rest =>
    let form :=
      if c = 'Σ' then [if nextIsCased before && !nextIsCased rest then 'ς' else 'σ']
      else lowerChar c
    form ++ lowerFrom (c :: before) rest

/-- A text in lower case. -/
def lower (s : String) : String := String.ofList (lowerFrom [] s.toList)

/-- A text with its ASCII letters in lower case. -/
def lowerAscii (s : String) : String := String.ofList (s.toList.map Char.toLower)

end SearchBridge.Text
