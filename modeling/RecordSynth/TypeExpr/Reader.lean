import RecordSynth.TypeExpr
/-!
# Reading type expressions

A type is a name, or a name with arguments between angle brackets, separated by commas; blanks may
stand around names and brackets. A name runs up to the next bracket or comma. A text that is no type
is refused with the whole text, wherever in it the fault lies.
-/

namespace RecordSynth

namespace TypeExpr

/-- The characters at which a name ends. -/
def isDelimiter (c : Char) : Bool := c == '<' || c == '>' || c == ','

theorem ofChars?_nil : QualifiedName.ofChars? (Text.trimChars []) = none := by decide

theorem length_dropWhile_lt {p : Char → Bool} {s : List Char} (h : s.takeWhile p ≠ []) :
    (s.dropWhile p).length < s.length := by
  have key : (s.takeWhile p ++ s.dropWhile p).length = s.length := by
    rw [List.takeWhile_append_dropWhile]
  have := List.length_pos_iff.2 h
  simp only [List.length_append] at key
  omega

/-- A reading of the front of `s`: what was read, and the text behind it, which is shorter. -/
abbrev Reading (α : Type) (s : List Char) := α × { r : List Char // r.length < s.length }

/-- The name at the front of a text, up to the next delimiter. -/
def readName (s : List Char) : Option (Reading QualifiedName s) :=
  match h : QualifiedName.ofChars? (Text.trimChars (s.takeWhile (!isDelimiter ·))) with
  | none => none
  | some n =>
    some (n, ⟨s.dropWhile (!isDelimiter ·), length_dropWhile_lt fun e => by
      rw [e, ofChars?_nil] at h; cases h⟩)

mutual

/-- The type at the front of a text. -/
def readType (s : List Char) : Option (Reading TypeExpr s) :=
  match readName s with
  | none => none
  | some (n, ⟨r, hr⟩) =>
    match h : Text.dropBlank r with
    | '<' :: inner =>
      have hi : inner.length < s.length := by
        have := Text.length_dropBlank_le r
        rw [h] at this
        simp only [List.length_cons] at this
        omega
      match readArguments inner with
      | none => none
      | some (args, ⟨rest, hrest⟩) => some (⟨n, args⟩, ⟨rest, by omega⟩)
    | rest => some (ofName n, ⟨rest, by
        have := Text.length_dropBlank_le r
        rw [h] at this
        omega⟩)
termination_by (s.length, 0)

/-- The arguments behind an opening bracket or a comma, up to the closing bracket, which is read
too. -/
def readArguments (s : List Char) : Option (Reading (List TypeExpr) s) :=
  match readType s with
  | none => none
  | some (t, ⟨r, hr⟩) =>
    match h : Text.dropBlank r with
    | ',' :: more =>
      have hm : more.length < s.length := by
        have := Text.length_dropBlank_le r
        rw [h] at this
        simp only [List.length_cons] at this
        omega
      match readArguments more with
      | none => none
      | some (ts, ⟨rest, hrest⟩) => some (t :: ts, ⟨rest, by omega⟩)
    | '>' :: rest => some ([t], ⟨rest, by
        have := Text.length_dropBlank_le r
        rw [h] at this
        simp only [List.length_cons] at this
        omega⟩)
    | _ => none
termination_by (s.length, 1)

end

/-- Reads a whole text as a type. -/
def ofChars? (s : List Char) : Option TypeExpr :=
  match readType s with
  | some (t, ⟨r, _⟩) => if Text.dropBlank r = [] then some t else none
  | none => none

/-- Reads a type from a text. -/
def parse (s : String) : Except Error TypeExpr :=
  match ofChars? s.toList with
  | some t => .ok t
  | none => .error (.invalidType s)

end TypeExpr

end RecordSynth
