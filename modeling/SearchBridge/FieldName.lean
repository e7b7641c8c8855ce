import SearchBridge.Json.Writer
import SearchBridge.Text.Lowercase

/-!
# Names in the index

Field names are lower-case in the index. A keyword field may have a sibling that holds the
unchanged values. Counts of a facet's interval are kept under a key made of the facet's and the
interval's names.
-/

namespace SearchBridge

/-- The name of a field in the index. -/
def fieldName (name : String) : String := Text.lower name

/-- The sub-field that holds unchanged values. -/
def rawSubfield : String := "raw"

/-- The name of a field's sibling with unchanged values. -/
def rawFieldName (name : String) : String := name ++ "." ++ rawSubfield

/-- A term of a boolean field as the index has it: `1` and `0` stand for the truth values, and
other terms are in lower case. -/
def booleanTerm (term : String) : String :=
  if term = "1" then "true" else if term = "0" then "false" else Text.lower term

/-- The key of the counts of one interval of a facet. -/
def intervalKey (facetId intervalId : String) : String := facetId ++ "-" ++ intervalId

/-- The name under which a bucket is reported: a text itself, nothing for `null`, the written form
for the rest, in which a whole number loses the mark of its fraction while it is below `10 ^ 15`. -/
def bucketName : Json → String
  | .string s => s
  | .null => ""
  | .number (.float x) =>
    if x.isWhole ∧ x.floor < Decimal.tenTo 15 then toString x.truncate
    else (Json.Number.float x).text
  | v => v.compact

end SearchBridge
