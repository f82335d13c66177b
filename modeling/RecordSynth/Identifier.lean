/-!
# Identifiers

A letter, an underscore or a dollar sign, followed by any number of these and of digits; letters and
digits are those of ASCII.
-/

namespace RecordSynth

namespace Identifier

/-- The characters that may start an identifier. -/
def isStart (c : Char) : Bool := c.isAlpha || c == '_' || c == '$'

/-- The characters that may follow in an identifier. -/
def isRest (c : Char) : Bool := c.isAlphanum || c == '_' || c == '$'

/-- Whether a text is an identifier. -/
def accepts : List Char → Bool
  | [] => false
  | c :: r => isStart c && r.all isRest

end Identifier

/-- A text that is an identifier. -/
structure Identifier where
  text : String
  accepts_text : Identifier.accepts text.toList = true := by decide
deriving DecidableEq, Repr

namespace Identifier

/-- The text as an identifier, if it is one. -/
def ofString? (s : String) : Option Identifier :=
  if h : accepts s.toList = true then some ⟨s, h⟩ else none

theorem isRest_of_isStart {c : Char} (h : isStart c = true) : isRest c = true := by
  simp only [isStart, isRest, Char.isAlphanum, Bool.or_eq_true] at *
  rcases h with (h | h) | h <;> simp [h]

theorem isRest_of_mem {s : List Char} (h : accepts s = true) {c : Char} (hc : c ∈ s) :
    isRest c = true := by
  cases s with
  | nil => simp at hc
  | cons a r =>
    simp only [accepts, Bool.and_eq_true, List.all_eq_true] at h
    rcases List.mem_cons.1 hc with rfl | hc
    · exact isRest_of_isStart h.1
    · exact h.2 c hc

theorem accepts_append {s t : List Char} (hs : accepts s = true) (ht : t.all isRest = true) :
    accepts (s ++ t) = true := by
  cases s with
  | nil => simp [accepts] at hs
  | cons a r =>
    simp only [accepts, Bool.and_eq_true, List.cons_append, List.all_append] at *
    exact ⟨hs.1, hs.2, ht⟩

/-- The identifier followed by the text of another one. -/
def append (a b : Identifier) : Identifier where
  text := a.text ++ b.text
  accepts_text := by
    rw [String.toList_append]
    exact accepts_append a.accepts_text
      (List.all_eq_true.2 fun _ hc => isRest_of_mem b.accepts_text hc)

instance : Append Identifier := ⟨append⟩

@[simp] theorem text_append (a b : Identifier) : (a ++ b).text = a.text ++ b.text := rfl

theorem ofString?_text (a : Identifier) : ofString? a.text = some a := by
  simp [ofString?, a.accepts_text]

theorem ofString?_eq_some_iff {s : String} {a : Identifier} :
    ofString? s = some a ↔ a.text = s := by
  constructor
  · intro h
    unfold ofString? at h
    split at h
    · cases h; rfl
    · simp at h
  · rintro rfl
    exact ofString?_text a

/-! ## Segments that well-known packages share -/

def javaSegment : Identifier := ⟨"java", by decide⟩

def annotationSegment : Identifier := ⟨"annotation", by decide⟩

def orgSegment : Identifier := ⟨"org", by decide⟩

def springSegment : Identifier := ⟨"springframework", by decide⟩

end Identifier

end RecordSynth
