import SearchBridge.Text.Encoding

/-!
# Percent-encoding

Characters that may not stand in a part of an address are written as the bytes of their UTF-8 form,
each as a percent sign and two digits. Every part has its own class of such characters, and the
percent sign is in none of them, so what is encoded already stays as it is.
-/

namespace SearchBridge.Url

/-- Control characters, and all that is not ASCII. -/
def isControl (c : Char) : Bool := decide (c.toNat ≤ 0x1F ∨ 0x7F ≤ c.toNat)

/-- The characters that are encoded in a fragment. -/
def notInFragment (c : Char) : Bool := isControl c || [' ', '"', '<', '>', '`'].contains c

/-- The characters that are encoded in a query. -/
def notInQuery (c : Char) : Bool := isControl c || [' ', '"', '#', '<', '>', '\''].contains c

/-- The characters that are encoded in a path. -/
def notInPath (c : Char) : Bool := notInFragment c || ['#', '?', '\x7b', '\x7d'].contains c

/-- The characters that are encoded in a user name and in a password. -/
def notInUser (c : Char) : Bool :=
  notInPath c || ['/', ':', ';', '=', '@', '[', '\\', ']', '^', '|'].contains c

/-- A character, encoded if it is in the class. -/
def encodeChar (isExcluded : Char → Bool) (c : Char) : List Char :=
  if isExcluded c then (String.utf8EncodeChar c).flatMap fun b => '%' :: Hex.upperPair b else [c]

/-- Characters with those of the class encoded. -/
def encode (isExcluded : Char → Bool) (cs : List Char) : List Char :=
  cs.flatMap (encodeChar isExcluded)

/-- The bytes of characters of which some are encoded; a percent sign without two digits after it
stands for itself. -/
def decode : List Char → List UInt8
  | [] => []
  | '%' :: a :: b :: rest =>
    match Hex.value? a, Hex.value? b with
    | some x, some y => (16 * x + y).toUInt8 :: decode rest
    | _, _ => 0x25 :: decode (a :: b :: rest)
  | c :: rest => String.utf8EncodeChar c ++ decode rest

end SearchBridge.Url
