import SearchBridge.Numeric.Literal
import SearchBridge.Text.Encoding

/-!
# Strings and keys of TOML

Scanners on the characters of a document. Each gives what it read and the characters after it, or
nothing if the characters do not have the form. Strings come in four forms: with or without escapes,
on one or on several lines.
-/

namespace SearchBridge.Toml

/-- A blank inside a line. -/
def isSpace (c : Char) : Bool := c == ' ' || c == '\t'

/-- The characters after leading blanks of a line. -/
def skipSpaces (cs : List Char) : List Char := cs.dropWhile isSpace

/-- A character that may stand in a comment or a string: no control character but the tab. -/
def isTextChar (c : Char) : Bool := c == '\t' || (decide (32 ≤ c.toNat) && c.toNat != 127)

/-- The characters after a line break. -/
def newline? : List Char → Option (List Char)
  | '\n' :: rest => some rest
  | '\r' :: '\n' :: rest => some rest
  | _ => none

/-- The characters from the end of a comment on, if one starts here. -/
def skipComment : List Char → List Char
  | '#' :: rest => rest.dropWhile isTextChar
  | cs => cs

/-- The characters after the end of a line, on which only blanks and a comment may remain. -/
def lineEnd? (cs : List Char) : Option (List Char) :=
  match skipComment (skipSpaces cs) with
  | [] => some []
  | rest => newline? rest

/-- The characters after blanks, comments and line breaks; `fuel` bounds the number of lines. -/
def skipLines : Nat → List Char → List Char
  | 0, cs => cs
  | fuel + 1, cs =>
    match newline? (skipComment (skipSpaces cs)) with
    | some rest => skipLines fuel rest
    | none => skipSpaces cs

/-- The character with a code point in hexadecimal digits. -/
def scalar? (digits : List Char) : Option Char := do
  let code ← Hex.number? digits
  if code.isValidChar then some (Char.ofNat code) else none

/-- The character that an escape after its backslash stands for. -/
def escape? : List Char → Option (Char × List Char)
  | 'b' :: rest => some (Char.ofNat 8, rest)
  | 't' :: rest => some ('\t', rest)
  | 'n' :: rest => some ('\n', rest)
  | 'f' :: rest => some (Char.ofNat 12, rest)
  | 'r' :: rest => some ('\r', rest)
  | '"' :: rest => some ('"', rest)
  | '\\' :: rest => some ('\\', rest)
  | 'u' :: rest =>
    if rest.length < 4 then none else (scalar? (rest.take 4)).map fun c => (c, rest.drop 4)
  | 'U' :: rest =>
    if rest.length < 8 then none else (scalar? (rest.take 8)).map fun c => (c, rest.drop 8)
  | _ => none

/-- A string after its opening quote, on one line. -/
def lineString? (hasEscapes : Bool) (quote : Char) :
    Nat → List Char → Option (List Char × List Char)
  | 0, _ => none
  | _, [] => none
  | fuel + 1, c :: rest =>
    if c = quote then some ([], rest)
    else if hasEscapes ∧ c = '\\' then do
      let (x, rest) ← escape? rest
      let (xs, rest) ← lineString? hasEscapes quote fuel rest
      return (x :: xs, rest)
    else if isTextChar c then do
      let (xs, rest) ← lineString? hasEscapes quote fuel rest
      return (c :: xs, rest)
    else none

/-- The characters after a backslash at the end of a line: blanks and line breaks go away. -/
def continuation? (cs : List Char) : Option (List Char) := do
  let rest ← newline? (skipSpaces cs)
  return rest.dropWhile fun c => isSpace c || c == '\n' || c == '\r'

/-- A string after its opening quotes, on several lines. The closing quotes may have up to two
quotes of the string before them, and line breaks become line feeds. -/
def blockString? (hasEscapes : Bool) (quote : Char) :
    Nat → List Char → Option (List Char × List Char)
  | 0, _ => none
  | _, [] => none
  | fuel + 1, c :: rest =>
    if c = quote then
      let run := (c :: rest).takeWhile (· == quote)
      let after := (c :: rest).dropWhile (· == quote)
      if run.length < 3 then do
        let (xs, rest) ← blockString? hasEscapes quote fuel after
        return (run ++ xs, rest)
      else if run.length ≤ 5 then some (run.drop 3, after)
      else none
    else if hasEscapes ∧ c = '\\' then
      match continuation? rest with
      | some rest => blockString? hasEscapes quote fuel rest
      | none => do
        let (x, rest) ← escape? rest
        let (xs, rest) ← blockString? hasEscapes quote fuel rest
        return (x :: xs, rest)
    else
      match newline? (c :: rest) with
      | some rest => do
        let (xs, rest) ← blockString? hasEscapes quote fuel rest
        return ('\n' :: xs, rest)
      | none =>
        if isTextChar c then do
          let (xs, rest) ← blockString? hasEscapes quote fuel rest
          return (c :: xs, rest)
        else none

/-- A string in any form. -/
def string? : List Char → Option (String × List Char)
  | q :: rest =>
    if q = '"' ∨ q = '\'' then
      let hasEscapes := q == '"'
      match rest with
      | a :: b :: body =>
        if a = q ∧ b = q then
          let body := (newline? body).getD body
          (blockString? hasEscapes q (body.length + 1) body).map fun (xs, rest) =>
            (String.ofList xs, rest)
        else (lineString? hasEscapes q (rest.length + 1) rest).map fun (xs, rest) =>
          (String.ofList xs, rest)
      | _ => (lineString? hasEscapes q (rest.length + 1) rest).map fun (xs, rest) =>
          (String.ofList xs, rest)
    else none
  | [] => none

/-- A character of a key without quotes. -/
def isBare (c : Char) : Bool := c.isAlphanum || c == '_' || c == '-'

/-- One part of a key: bare, or a string on one line. -/
def keyPart? : List Char → Option (String × List Char)
  | [] => none
  | c :: rest =>
    if c = '"' ∨ c = '\'' then
      (lineString? (c == '"') c (rest.length + 1) rest).map fun (xs, rest) =>
        (String.ofList xs, rest)
    else
      match (c :: rest).takeWhile isBare with
      | [] => none
      | part => some (String.ofList part, (c :: rest).dropWhile isBare)

/-- A key: parts with points between them, and blanks around both. -/
def key? : Nat → List Char → Option (List String × List Char)
  | 0, _ => none
  | fuel + 1, cs => do
    let (part, rest) ← keyPart? (skipSpaces cs)
    match skipSpaces rest with
    | '.' :: rest =>
      let (parts, rest) ← key? fuel rest
      return (part :: parts, rest)
    | rest => return ([part], rest)

end SearchBridge.Toml
