import SearchBridge.Text.Encoding
import SearchBridge.Text.Lowercase
import SearchBridge.Text.UnprintableRanges
import SearchBridge.Url.Address
import SearchBridge.Url.Domain.Direction
import SearchBridge.Url.Domain.Forms
import SearchBridge.Url.Domain.Joining
import SearchBridge.Url.Percent
import SearchBridge.Url.Punycode

/-!
# Domain names

A domain name is written in ASCII and in lower case. Its characters are brought to one form first,
and the text to its composed form. A label with characters beyond ASCII is then written in Punycode
after a mark; a label that has the mark already is read, and has to be in that form. Characters that
delimit parts of an address may not stand in a domain name.
-/

namespace SearchBridge.Url

/-- The mark of labels that are written in Punycode. -/
def punycodeMark : List Char := ['x', 'n', '-', '-']

/-- Whether a character is ASCII. -/
def isAscii (c : Char) : Bool := decide (c.toNat < 128)

/-- The ASCII characters that a domain name may not contain. -/
def isForbidden (c : Char) : Bool :=
  decide (c.toNat ≤ 0x20 ∨ c.toNat = 0x7F) ||
    ['#', '/', ':', '<', '>', '?', '@', '[', '\\', ']', '^', '|', '%'].contains c

/-! ## Forms of characters -/

/-- A character that is not written. -/
def isOmitted (c : Char) : Bool := Text.inRanges omittedRanges c.toNat

/-- A character that may not stand in a domain name. -/
def isRefused (c : Char) : Bool :=
  Text.inRanges refusedRanges c.toNat ||
    (Text.inRanges Text.unprintableRanges c.toNat && !isOmitted c && !isJoiner c)

/-- A capital letter of the Cherokee script, in which the small letters are the rare ones. -/
def isCherokeeCapital (c : Char) : Bool := decide (0x13A0 ≤ c.toNat ∧ c.toNat ≤ 0x13F5)

/-- The form of a character in domain names, if it may stand there. -/
def form? (c : Char) : Option (List Char) :=
  if isRefused c then none
  else if isOmitted c then some []
  else if isCherokeeCapital c then some [c]
  else
    match formRuns.find? (·.covers c.toNat) with
    | some run => some [Char.ofNat (c.toNat + run.shift).toNat]
    | none => some ((formBlocks.findSome? (·.word? c.toNat)).getD (Text.lowerChar c))

/-- A text in the form that domain names have. Only lower-casing applies to ASCII. -/
def canonical? (cs : List Char) : Option (List Char) :=
  if cs.all isAscii then some (cs.map Char.toLower)
  else (cs.mapM form?).map fun forms => Text.composed forms.flatten

/-! ## Labels -/

/-- A mark of any kind. -/
def isMark (c : Char) : Bool :=
  Text.inRanges Text.nonspacingRanges c.toNat || Text.inRanges Text.spacingRanges c.toNat

/-- A label that starts with no mark, and in which joiners can be seen. -/
def isWellFormed (label : List Char) : Bool :=
  !(label.head?.any isMark) && joinersAreSeen [] label

/-- The characters of a label, which are written in Punycode after the mark. What is read has to be
in the form that domain names have, and not in ASCII. -/
def labelOf? (label : List Char) : Option (List Char) :=
  if punycodeMark.isPrefixOf label then do
    guard (label.all isAscii)
    let decoded ← Punycode.decode? (label.drop punycodeMark.length)
    guard (!decoded.all isAscii && canonical? decoded == some decoded)
    return decoded
  else some label

/-- The written form of a label. -/
def labelText (label : List Char) : List Char :=
  if label.all isAscii then label else punycodeMark ++ Punycode.encode label

/-- The written form of a domain name. -/
def domainText? (name : List Char) : Option (List Char) := do
  let labels ← (Text.splitAt '.' (← canonical? name)).mapM labelOf?
  guard (labels.all fun label => label.all isAscii || isWellFormed label)
  guard (!(labels.any (·.any isRightToLeft)) || labels.all hasOneDirection)
  let text := ['.'].intercalate (labels.map labelText)
  guard (!text.any isForbidden)
  return text

end SearchBridge.Url
