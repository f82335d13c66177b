/-!
# Splitting and joining

Text cut at every occurrence of one separator, and texts put together with one between them. A text
has one piece more than it has separators, so the empty text is one empty piece.
-/

namespace RecordSynth.Text

/-- The pieces between the occurrences of `sep`, empty ones included. -/
def splitChars (sep : Char) : List Char → List (List Char)
  | [] => [[]]
  | c :: r =>
    if c = sep then [] :: splitChars sep r
    else
      match splitChars sep r with
      | [] => [[c]]
      | p :: ps => (c :: p) :: ps

/-- The pieces between the occurrences of `sep`, empty ones included. -/
def split (sep : Char) (s : String) : List String := (splitChars sep s.toList).map String.ofList

/-- The texts with `sep` between each two. -/
def join (sep : String) (texts : List String) : String := sep.intercalate texts

theorem splitChars_ne_nil (sep : Char) (s : List Char) : splitChars sep s ≠ [] := by
  cases s with
  | nil => simp [splitChars]
  | cons c r =>
    simp only [splitChars]
    split
    · simp
    · split <;> simp

example : split '.' "a..b" = ["a", "", "b"] := by decide

end RecordSynth.Text
