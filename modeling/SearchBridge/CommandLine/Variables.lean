import SearchBridge.Options.Load
import SearchBridge.Text.AlphanumericRanges

/-!
# Variables from a file

A file may set variables of the environment, one a line, as `name=value`. Parts of a value may stand
in quotes, which may span lines: between single quotes everything stands for itself, elsewhere a
backslash protects a character and a dollar sign takes in the value of a variable. A comment follows
a blank and a number sign. A variable that is set keeps its value, and the first malformed line ends
the reading.
-/

namespace SearchBridge.Variables

/-! ## Lines -/

/-- Where in a line a character stands. -/
inductive Place where
  | plain
  /-- After a blank. -/
  | blank
  /-- After a backslash. -/
  | escape
  | strong
  | strongEscape
  | weak
  | weakEscape
  deriving DecidableEq

/-- The place after a character outside quotes. -/
def Place.afterPlain (c : Char) : Place :=
  if c = '\\' then .escape
  else if c = '"' then .weak
  else if c = '\'' then .strong
  else .plain

/-- The place after a character. -/
def Place.after : Place → Char → Place
  | .plain, c =>
    if Text.isBlank c ∧ c ≠ '\n' ∧ c ≠ '\r' then .blank else .afterPlain c
  | .blank, c => .afterPlain c
  | .escape, _ => .plain
  | .strong, c => if c = '\\' then .strongEscape else if c = '\'' then .plain else .strong
  | .strongEscape, _ => .strong
  | .weak, c => if c = '\\' then .weakEscape else if c = '"' then .plain else .weak
  | .weakEscape, _ => .weak

/-- The characters of a line before a comment, and the place after the line; there is no place after
a comment. -/
def scanLine : Place → List Char → List Char × Option Place
  | place, [] => ([], some place)
  | place, c :: rest =>
    if place = .blank ∧ c = '#' then ([], none)
    else
      let (kept, last) := scanLine (place.after c) rest
      (c :: kept, last)

/-- The lines of a text, each with its line break. -/
def breakLines : List Char → List (List Char)
  | [] => []
  | c :: rest =>
    if c = '\n' then [c] :: breakLines rest
    else
      match breakLines rest with
      | [] => [[c]]
      | line :: lines => (c :: line) :: lines

/-- Whether a line starts with a number sign after blanks. -/
def isComment (line : List Char) : Bool := (line.dropWhile Text.isBlank).head? == some '#'

/-- The entries of lines, each of one line or of several that a quoted part spans. Lines at the end
that leave a part open are no entry but `none`. -/
def entries (begun : List Char) (place : Place) : List (List Char) → List (Option (List Char))
  | [] => if place = .plain then [] else [none]
  | line :: lines =>
    if begun.isEmpty && isComment line then entries [] .plain lines
    else
      match scanLine place line with
      | (kept, none) => some (begun ++ kept) :: entries [] .plain lines
      | (kept, some .plain) => some (begun ++ kept) :: entries [] .plain lines
      | (kept, some place) => entries (begun ++ kept) place lines

/-! ## Values -/

/-- Where in a value a character stands. The value may be `inQuotes`, double ones. -/
inductive Part where
  | text (inQuotes : Bool)
  /-- Between single quotes. -/
  | strong
  /-- After a backslash. -/
  | escape (inQuotes : Bool)
  /-- In the name of a variable after a dollar sign. -/
  | reference (inQuotes : Bool) (name : List Char)
  /-- In the name of a variable in braces. -/
  | braced (inQuotes : Bool) (name : List Char)
  /-- After the blank that ends the value. -/
  | ended

/-- The value of a variable; one that is not set is empty. -/
def valueOf (environment : Environment) (name : List Char) : List Char :=
  ((environment.lookup (String.ofList name)).getD "").toList

/-- The character that a backslash protects. -/
def protected? (c : Char) : Option Char :=
  if ['\\', '\'', '"', '$', ' '].contains c then some c else if c = 'n' then some '\n' else none

/-- A letter or a number of any script. -/
def isAlphanumeric (c : Char) : Bool := Text.inRanges Text.alphanumericRanges c.toNat

/-- Reads a value. The character that ends the name of a variable without braces stands for itself,
whatever it is, unless it is a dollar sign. -/
def value? (environment : Environment) : Part → List Char → Option (List Char)
  | .text inQuotes, [] => if inQuotes then none else some []
  | .strong, [] => none
  | .escape inQuotes, [] => if inQuotes then none else some []
  | .reference inQuotes name, [] => if inQuotes then none else some (valueOf environment name)
  | .braced _ _, [] => none
  | .ended, [] => some []
  | .text inQuotes, c :: rest =>
    if c = '$' then value? environment (.reference inQuotes []) rest
    else if c = '\\' then value? environment (.escape inQuotes) rest
    else if c = '"' then value? environment (.text !inQuotes) rest
    else if inQuotes then (value? environment (.text true) rest).map (c :: ·)
    else if c = '\'' then value? environment .strong rest
    else if c = ' ' ∨ c = '\t' then value? environment .ended rest
    else (value? environment (.text false) rest).map (c :: ·)
  | .strong, c :: rest =>
    if c = '\'' then value? environment (.text false) rest
    else (value? environment .strong rest).map (c :: ·)
  | .escape inQuotes, c :: rest => do
    let c ← protected? c
    return c :: (← value? environment (.text inQuotes) rest)
  | .reference inQuotes name, c :: rest =>
    if isAlphanumeric c then value? environment (.reference inQuotes (name ++ [c])) rest
    else if c = '\x7b' ∧ name = [] then value? environment (.braced inQuotes []) rest
    else if c = '$' then
      (value? environment (.reference inQuotes []) rest).map (valueOf environment name ++ ·)
    else (value? environment (.text inQuotes) rest).map (valueOf environment name ++ c :: ·)
  | .braced inQuotes name, c :: rest =>
    if c = '\x7d' then
      (value? environment (.text inQuotes) rest).map (valueOf environment name ++ ·)
    else value? environment (.braced inQuotes (name ++ [c])) rest
  | .ended, c :: rest =>
    if c = ' ' ∨ c = '\t' then value? environment .ended rest
    else if c = '#' then some []
    else none

/-! ## Entries -/

/-- A character of a name. -/
def isNameChar (c : Char) : Bool := c.isAlphanum || c == '_' || c == '.'

/-- The name that characters start with, and the characters after it and after blanks. -/
def name? (cs : List Char) : Option (List Char × List Char) :=
  match cs with
  | [] => none
  | c :: _ =>
    if c.isAlpha || c == '_' then
      some (cs.takeWhile isNameChar, (cs.dropWhile isNameChar).dropWhile Text.isBlank)
    else none

/-- The variable that an entry sets; an empty entry sets none. A name may follow the word
`export`. -/
def assignment? (environment : Environment) (entry : List Char) :
    Option (Option (String × String)) := do
  let cs := (Text.dropEnd Text.isBlank entry).dropWhile Text.isBlank
  if cs.isEmpty || isComment cs then return none
  let (name, rest) ← name? cs
  let (name, rest) ←
    if name = "export".toList ∧ rest.head? ≠ some '=' then name? rest else some (name, rest)
  guard (rest.head? = some '=')
  let rest := rest.tail.dropWhile Text.isBlank
  if rest.isEmpty || isComment rest then return some (String.ofList name, "")
  return some (String.ofList name, String.ofList (← value? environment (.text false) rest))

/-- Sets the variables of entries up to the first malformed one. -/
def setAll (environment : Environment) : List (Option (List Char)) → Environment
  | [] => environment
  | none :: _ => environment
  | some entry :: rest =>
    match assignment? environment entry with
    | none => environment
    | some none => setAll environment rest
    | some (some (name, value)) =>
      if (environment.lookup name).isSome then setAll environment rest
      else setAll (environment ++ [(name, value)]) rest

/-- The environment with the variables that a text sets; a byte order mark before it does not
count. -/
def load (environment : Environment) (text : String) : Environment :=
  let cs := match text.toList with
    | '\ufeff' :: rest => rest
    | cs => cs
  setAll environment (entries [] .plain (breakLines cs))

end SearchBridge.Variables
