import SearchBridge.Json.Basic

/-!
# Writing JSON

Two written forms of a value: a compact one without blanks and an indented one with two blanks a
level, in which an empty array or object stays on one line. Both write entries in their order,
repeated keys included. In a string only the quote, the backslash and the control characters
below U+0020 are escaped.
-/

namespace SearchBridge

namespace Json

/-- JSON writes doubles with the point in reach of the digits positionally, whole ones with `.0`,
and goes to the even digit on a tie. -/
def numberLayout : Decimal.Layout where
  positional e := decide (-5 ≤ e ∧ e < 16)
  wholeFraction := true
  tie := .toEven

/-- The text of a number. -/
def Number.text : Number → String
  | .integer n => toString n
  | .float x => x.render numberLayout

/-- The two lower-case hexadecimal digits of a number below 256. -/
def hexPair (n : Nat) : String :=
  String.ofList [Nat.digitChar (n / 16), Nat.digitChar (n % 16)]

/-- A character as it stands between quotes. -/
def escaped (c : Char) : String :=
  if c = '"' then "\\\""
  else if c = '\\' then "\\\\"
  else if c = '\n' then "\\n"
  else if c = '\r' then "\\r"
  else if c = '\t' then "\\t"
  else if c.toNat = 8 then "\\b"
  else if c.toNat = 12 then "\\f"
  else if c.toNat < 32 then "\\u00" ++ hexPair c.toNat
  else c.toString

/-- A text as a JSON string. -/
def quote (s : String) : String :=
  "\"" ++ s.foldl (fun out c => out ++ escaped c) "" ++ "\""

mutual

/-- The written form without blanks. -/
def compact : Json → String
  | .null => "null"
  | .bool b => if b then "true" else "false"
  | .number n => n.text
  | .string s => quote s
  | .array items => "[" ++ ",".intercalate (compactItems items) ++ "]"
  | .object entries => "\x7b" ++ ",".intercalate (compactEntries entries) ++ "\x7d"

/-- The compact forms of the items. -/
def compactItems : List Json → List String
  | [] => []
  | v :: rest => v.compact :: compactItems rest

/-- The compact forms of the entries. -/
def compactEntries : List (String × Json) → List String
  | [] => []
  | (k, v) :: rest => (quote k ++ ":" ++ v.compact) :: compactEntries rest

end

/-- The start of a line at a level of nesting. -/
def lineStart (level : Nat) : String := "\n" ++ String.ofList (List.replicate (2 * level) ' ')

/-- Parts on lines of their own between brackets, or the bare brackets when there are none. -/
def block (opening closing : String) (level : Nat) (parts : List String) : String :=
  if parts.isEmpty then opening ++ closing
  else
    opening ++ lineStart (level + 1) ++ ("," ++ lineStart (level + 1)).intercalate parts ++
      lineStart level ++ closing

mutual

/-- The indented form of a value that stands at a level of nesting. -/
def indented (level : Nat) : Json → String
  | .array items => block "[" "]" level (indentedItems (level + 1) items)
  | .object entries => block "\x7b" "\x7d" level (indentedEntries (level + 1) entries)
  | .null => compact .null
  | .bool b => compact (.bool b)
  | .number n => compact (.number n)
  | .string s => compact (.string s)

/-- The indented forms of the items. -/
def indentedItems (level : Nat) : List Json → List String
  | [] => []
  | v :: rest => v.indented level :: indentedItems level rest

/-- The indented forms of the entries. -/
def indentedEntries (level : Nat) : List (String × Json) → List String
  | [] => []
  | (k, v) :: rest => (quote k ++ ": " ++ v.indented level) :: indentedEntries level rest

end

/-- The written form with one item or entry a line. -/
def pretty (v : Json) : String := v.indented 0

end Json

end SearchBridge
