import RecordSynth.Number
/-!
# JSON values

A JSON value as it stands in a document: the members of an object keep their order, and a key may
occur more than once. A value that follows the grammar and yet stands for nothing, such as a text
with half of a surrogate pair or a number beyond all floating-point numbers, is kept as `illFormed`:
it may be passed over but not used.
-/

namespace RecordSynth

/-- A value of a JSON document. -/
inductive Json where
  | null
  | bool (value : Bool)
  | number (value : Number)
  | text (value : String)
  | array (items : List Json)
  | object (members : List (String × Json))
  | illFormed
deriving Repr

namespace Json

/-- The value of the first member with the given key. -/
def member? (key : String) : Json → Option Json
  | .object members => members.lookup key
  | _ => none

/-- The value of an optional text. -/
def ofText? : Option String → Json
  | none => .null
  | some s => .text s

/-- An array of texts. -/
def texts (ts : List String) : Json := .array (ts.map .text)

end Json

end RecordSynth
