import RecordSynth.Json
/-!
# Fields of a record

How the fields of a record are found among the members of a document's mapping: by name, each at
most once, whatever else is there. A JSON document may also give them by position, as an array with
no more items than the record has fields.
-/

namespace RecordSynth

/-- The value of a field among members, if it occurs; none at all if it occurs twice. -/
def field? {α : Type} (name : String) (members : List (String × α)) : Option (Option α) :=
  match members.filter (·.1 == name) with
  | [] => some none
  | [(_, v)] => some (some v)
  | _ => none

/-- The values of the fields with the given names, in order. -/
def fieldsOf? {α : Type} (names : List String) (members : List (String × α)) :
    Option (List (Option α)) :=
  names.mapM fun name => field? name members

example : fieldsOf? ["a", "b"] [("b", 1), ("c", 2), ("c", 3)] = some [none, some 1] := by decide
example : fieldsOf? ["c"] [("b", 1), ("c", 2), ("c", 3)] = none := by decide

namespace Json

/-- The values of the fields with the given names, in order. -/
def fields? (names : List String) : Json → Option (List (Option Json))
  | .object members => fieldsOf? names members
  | .array items =>
    if items.length ≤ names.length then
      some (items.map some ++ List.replicate (names.length - items.length) none)
    else none
  | _ => none

/-- The text of a value that has to be one. -/
def text? : Json → Option String
  | .text s => some s
  | _ => none

/-- The text of a value that may be null. -/
def optionalText? : Json → Option (Option String)
  | .null => some none
  | .text s => some (some s)
  | _ => none

/-- The items of a value that has to be an array. -/
def items? : Json → Option (List Json)
  | .array items => some items
  | _ => none

end Json

end RecordSynth
