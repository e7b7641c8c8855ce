import SearchBridge.Text.Basic
import SearchBridge.Text.MarkRanges

/-!
# Directions

A domain name with a character that is read from right to left is displayed in two directions. Its
labels then have to be such that they are displayed in one way only: a label has one direction,
which its first and its last characters show, and no characters of the other one.

The tables are made for the characters of domain names, and cover others as well.
-/

namespace SearchBridge.Url

/-- What a character does to the direction of the text around it. -/
inductive Direction where
  | leftToRight
  | rightToLeft
  | westernDigit
  | arabicDigit
  | neutral
  | mark
  deriving DecidableEq

/-- Ranges of right-to-left characters, ends included. -/
def rightToLeftRanges : List (Nat × Nat) := [
  (0x5BE, 0x8C9), (0xFBB2, 0xFE73), (0x10800, 0x10FF6), (0x1E800, 0x1ED3D)]

/-- Ranges of Arabic digits, ends included. -/
def arabicDigitRanges : List (Nat × Nat) := [
  (0x660, 0x669), (0x66B, 0x66C), (0x10D30, 0x10D39), (0x10E60, 0x10E7E)]

/-- Ranges of Western digits, ends included. -/
def westernDigitRanges : List (Nat × Nat) := [
  (0x30, 0x39), (0x6F0, 0x6F9), (0x102E1, 0x102FB)]

/-- Ranges of characters without a direction of their own, ends included. -/
def neutralRanges : List (Nat × Nat) := [
  (0x21, 0x2E), (0x3B, 0x60), (0x7B, 0xD7), (0xF7, 0xF7), (0x2B9, 0x2BA), (0x2C2, 0x2CF),
  (0x2D2, 0x2ED), (0x2EF, 0x2FF), (0x375, 0x375), (0x3F6, 0x3F6), (0x58A, 0x58F), (0x606, 0x607),
  (0x609, 0x60A), (0x60C, 0x60C), (0x60E, 0x60F), (0x66A, 0x66A), (0x6DE, 0x6DE), (0x6E9, 0x6E9),
  (0x7F6, 0x7F9), (0x9F2, 0x9F3), (0x9FB, 0x9FB), (0xAF1, 0xAF1), (0xBF3, 0xBFA), (0xC78, 0xC7E),
  (0xE3F, 0xE3F), (0xF3A, 0xF3D), (0x1390, 0x1399), (0x1400, 0x1400), (0x169B, 0x169C),
  (0x17DB, 0x17DB), (0x17F0, 0x180A), (0x1940, 0x1945), (0x19DE, 0x19FF), (0x200C, 0x20C1),
  (0x2104, 0x214D), (0x218A, 0x2335), (0x237B, 0x2394), (0x2396, 0x26AB), (0x26AD, 0x27FF),
  (0x2900, 0x2BFF), (0x2CE5, 0x2CEA), (0x2CF9, 0x2CFF), (0x2E00, 0x3004), (0x3008, 0x3020),
  (0x3030, 0x3030), (0x3037, 0x3037), (0x303D, 0x303F), (0x30A0, 0x30A0), (0x30FB, 0x30FB),
  (0x31C0, 0x31E5), (0x4DC0, 0x4DFF), (0xA490, 0xA4C6), (0xA60D, 0xA60F), (0xA673, 0xA673),
  (0xA67E, 0xA67F), (0xA700, 0xA721), (0xA788, 0xA788), (0xA828, 0xA82B), (0xA838, 0xA839),
  (0xA874, 0xA877), (0xAB6A, 0xAB6B), (0xFD3E, 0xFD4F), (0xFDCF, 0xFDFF), (0xFE45, 0xFE46),
  (0x10101, 0x10101), (0x10140, 0x1018C), (0x10190, 0x101A0), (0x1091F, 0x1091F),
  (0x10B39, 0x10B3F), (0x11052, 0x11065), (0x11660, 0x1166C), (0x11FD5, 0x11FF1),
  (0x16FE2, 0x16FE2), (0x1CC00, 0x1CEF0), (0x1D1E9, 0x1D241), (0x1D245, 0x1D245),
  (0x1D300, 0x1D356), (0x1E2FF, 0x1E2FF), (0x1EEF0, 0x1F12F), (0x1F16D, 0x1F16F),
  (0x1F1AD, 0x1F1AD), (0x1F260, 0x1FBFA)]

/-- The direction of a character. -/
def direction (c : Char) : Direction :=
  if Text.inRanges Text.nonspacingRanges c.toNat then .mark
  else if Text.inRanges arabicDigitRanges c.toNat then .arabicDigit
  else if Text.inRanges westernDigitRanges c.toNat then .westernDigit
  else if Text.inRanges neutralRanges c.toNat then .neutral
  else if Text.inRanges rightToLeftRanges c.toNat then .rightToLeft
  else .leftToRight

/-- A character that is displayed from right to left. -/
def isRightToLeft (c : Char) : Bool :=
  Text.inRanges rightToLeftRanges c.toNat &&
    [Direction.rightToLeft, .arabicDigit].contains (direction c)

/-- Whether a label is displayed in one way only in a name with right-to-left characters. -/
def hasOneDirection (label : List Char) : Bool :=
  let directions := label.map direction
  match directions, directions.reverse.dropWhile (· == .mark) with
  | .rightToLeft :: _, last :: _ =>
    [Direction.rightToLeft, .westernDigit, .arabicDigit].contains last &&
      !directions.contains .leftToRight &&
      !(directions.contains .westernDigit && directions.contains .arabicDigit)
  | .leftToRight :: _, last :: _ =>
    [Direction.leftToRight, .westernDigit].contains last &&
      !directions.contains .rightToLeft && !directions.contains .arabicDigit
  | directions, _ => directions.isEmpty

end SearchBridge.Url
