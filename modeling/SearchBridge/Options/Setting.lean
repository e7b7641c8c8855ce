import SearchBridge.Text.Lowercase
import SearchBridge.Toml.Document

/-!
# Settings

A setting is a loosely typed value from a file or from the environment. A reader converts it to the
type it needs: truth values, numbers and their texts stand for one another where that makes sense.
-/

namespace SearchBridge

/-- A loosely typed value. -/
inductive Setting where
  | boolean (value : Bool)
  | integer (value : Int)
  | float (value : Binary64)
  | text (value : String)
  /-- A list or a table, which may be an empty table. -/
  | compound (isEmptyTable : Bool)
  deriving DecidableEq

namespace Setting

/-- The setting that a value of a document gives. -/
def ofToml : Toml.Value → Setting
  | .scalar (.string s) => .text s
  | .scalar (.integer n) => .integer n
  | .scalar (.float x) => .float x
  | .scalar (.boolean b) => .boolean b
  | .scalar (.date s) => .text s
  | .array => .compound false
  | .table isEmpty => .compound isEmpty

/-- An integer in the range of signed 64-bit words. -/
def word? (s : String) : Option Int :=
  (Literal.int? s).filter fun n => decide (Int64.minValue.toInt ≤ n ∧ n ≤ Int64.maxValue.toInt)

/-- The setting that the value of a variable gives: a truth value in any case, an integer, another
number, or else a text. -/
def ofVariable (value : String) : Setting :=
  let word := Text.lower value
  if word = "true" then .boolean true
  else if word = "false" then .boolean false
  else
    match word? value with
    | some n => .integer n
    | none =>
      match Literal.double? value with
      | some x => .float x
      | none => .text value

/-- The greatest unsigned 64-bit word. -/
def wordBound : Nat := UInt64.size - 1

/-- The text of a setting. -/
def toText? : Setting → Option String
  | .boolean b => some (if b then "true" else "false")
  | .integer n => some (toString n)
  | .float x => some x.display
  | .text s => some s
  | .compound _ => none

/-- The truth value that a word stands for. -/
def truth? (word : String) : Option Bool :=
  let word := Text.lower word
  if word = "true" ∨ word = "on" ∨ word = "yes" then some true
  else if word = "false" ∨ word = "off" ∨ word = "no" then some false
  else none

/-- The truth value of a setting; a number other than zero is true. -/
def toBool? : Setting → Option Bool
  | .boolean b => some b
  | .integer n => some (n ≠ 0)
  | .float x => some x.isNonzero
  | .text s => if s = "1" then some true else if s = "0" then some false else truth? s
  | .compound _ => none

/-- The unsigned word of a setting: a fraction is rounded, a half going up, and a number beyond the
range of words is clamped to it. -/
def toWord? : Setting → Option UInt64
  | .boolean b => some (if b then 1 else 0)
  | .integer n => if 0 ≤ n then some n.toNat.toUInt64 else none
  | .float x => some (x.clampRound wordBound).toUInt64
  | .text s =>
    match truth? s with
    | some b => some (if b then 1 else 0)
    | none =>
      ((Literal.nat? s).filter fun n => decide (n ≤ wordBound)).map Nat.toUInt64
  | .compound _ => none

/-! ## Tables of settings -/

/-- A character of the name of a setting. -/
def isNameChar (c : Char) : Bool := c.isAlphanum || c == '_' || c == '-' || c == ' '

/-- Whether characters lead from a name to a part of its setting: names after points, and positions
in brackets. -/
def isAccess : Nat → List Char → Bool
  | _, [] => true
  | 0, _ => false
  | fuel + 1, '.' :: rest =>
    !(rest.takeWhile isNameChar).isEmpty && isAccess fuel (rest.dropWhile isNameChar)
  | fuel + 1, '[' :: rest =>
    let position := Toml.skipSpaces (rest.takeWhile (· != ']'))
    let digits := match position with
      | '-' :: ds => ds
      | ds => ds
    let rest := rest.dropWhile (· != ']')
    (Literal.digits? (Text.dropEnd (· == ' ') digits)).isSome && !rest.isEmpty &&
      isAccess fuel (rest.drop 1)
  | _, _ => false

/-- The setting that a key belongs to, and whether the key names a part of it. -/
def keyOf (key : String) : String × Bool :=
  let cs := key.toList
  let name := cs.takeWhile isNameChar
  let rest := cs.dropWhile isNameChar
  if rest.isEmpty ∨ name.isEmpty ∨ !isAccess rest.length rest then (key, false)
  else (String.ofList name, true)

/-- Sets the setting under a key in lower case. A part of a setting makes it a compound one, and an
empty table changes nothing where there is a setting. -/
def assign (settings : Table Setting) (key : String) (value : Setting) : Table Setting :=
  let (name, isPart) := keyOf (Text.lower key)
  if isPart then settings.put name (.compound false)
  else
    match value, settings.get? name with
    | .compound true, some _ => settings
    | _, _ => settings.put name value

/-- Sets several settings one after the other. -/
def assignAll (settings : Table Setting) (values : List (String × Setting)) : Table Setting :=
  values.foldl (fun t e => assign t e.1 e.2) settings

end Setting

end SearchBridge
