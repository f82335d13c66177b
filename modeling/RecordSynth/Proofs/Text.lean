import Mathlib
import RecordSynth.Text.Blank
import RecordSynth.Text.Split
/-!
# Blanks, pieces and joints

What is left of a text once every blank is deleted, and what trimming deletes: the blanks around a
text, and nothing at all of a text that has none. Splitting is the splitting of lists and joining
puts the separator between texts, so pieces without the separator are found again.
-/

namespace RecordSynth.Text

/-! ## Blanks -/

/-- `ws*`: a text of blanks alone. -/
abbrev Blanks (s : List Char) : Prop := ∀ c ∈ s, isBlank c = true

theorem blanks_nil : Blanks [] := List.forall_mem_nil _

theorem blanks_append {s t : List Char} (before : Blanks s) (behind : Blanks t) :
    Blanks (s ++ t) := List.forall_mem_append.2 ⟨before, behind⟩

/-- The text with every blank deleted. -/
def withoutBlanks (s : List Char) : List Char := s.filter (!isBlank ·)

@[simp] theorem withoutBlanks_append (s t : List Char) :
    withoutBlanks (s ++ t) = withoutBlanks s ++ withoutBlanks t := List.filter_append s t

theorem withoutBlanks_cons (c : Char) (s : List Char) :
    withoutBlanks (c :: s) = if isBlank c then withoutBlanks s else c :: withoutBlanks s := by
  cases h : isBlank c <;> simp [withoutBlanks, h]

/-- Nothing is left of a text exactly if it has only blanks. -/
theorem withoutBlanks_eq_nil_iff {s : List Char} : withoutBlanks s = [] ↔ Blanks s := by
  simp [withoutBlanks]

theorem withoutBlanks_eq_self {s : List Char} (solid : ∀ c ∈ s, isBlank c = false) :
    withoutBlanks s = s := by
  rw [withoutBlanks, List.filter_eq_self]
  intro c member
  simp [solid c member]

/-- Blanks in front are dropped. -/
theorem dropBlank_append {lead : List Char} (blank : Blanks lead) (s : List Char) :
    dropBlank (lead ++ s) = dropBlank s := by
  rw [dropBlank, List.dropWhile_append_of_pos blank, dropBlank]

/-- A text that does not start with a blank has none in front. -/
theorem dropBlank_cons {c : Char} (solid : isBlank c = false) (s : List Char) :
    dropBlank (c :: s) = c :: s := by
  simp [dropBlank, solid]

theorem dropBlank_dropBlank (s : List Char) : dropBlank (dropBlank s) = dropBlank s :=
  List.dropWhile_idempotent _ s

theorem exists_dropBlank (s : List Char) : ∃ lead, Blanks lead ∧ s = lead ++ dropBlank s := by
  refine ⟨s.takeWhile isBlank, ?_, List.takeWhile_append_dropWhile.symm⟩
  intro c member
  exact List.all_eq_true.1 List.all_takeWhile c member

/-- Trimming takes away blanks only. -/
theorem exists_trimChars (s : List Char) :
    ∃ lead trail, Blanks lead ∧ Blanks trail ∧ s = lead ++ trimChars s ++ trail := by
  obtain ⟨lead, before, front⟩ := exists_dropBlank s
  obtain ⟨trail, behind, back⟩ := exists_dropBlank (dropBlank s).reverse
  refine ⟨lead, trail.reverse, before, ?_, ?_⟩
  · intro c member
    exact behind c (List.mem_reverse.1 member)
  · have whole := congrArg List.reverse back
    rw [List.reverse_reverse, List.reverse_append] at whole
    rw [List.append_assoc]
    exact front.trans (congrArg (lead ++ ·) whole)

/-- Trimming takes away all blanks around a text without blanks. -/
theorem trimChars_padded {lead s trail : List Char} (before : Blanks lead)
    (solid : ∀ c ∈ s, isBlank c = false) (behind : Blanks trail) :
    trimChars (lead ++ s ++ trail) = s := by
  have behind' : Blanks trail.reverse := fun c member => behind c (List.mem_reverse.1 member)
  have front : dropBlankEnd (dropBlank (s ++ trail)) = dropBlankEnd (s ++ trail) := by
    cases s with
    | nil =>
      have blank : dropBlank trail = [] := List.dropWhile_eq_nil_iff.2 behind
      have reversed : trail.reverse.dropWhile isBlank = [] := List.dropWhile_eq_nil_iff.2 behind'
      rw [List.nil_append, blank, dropBlankEnd, dropBlankEnd, reversed]
      rfl
    | cons c s => rw [List.cons_append, dropBlank_cons (solid c (by simp))]
  have back : s.reverse.dropWhile isBlank = s.reverse := by
    cases reversed : s.reverse with
    | nil => rfl
    | cons c r =>
      have last : isBlank c = false := solid c (by rw [← List.mem_reverse, reversed]; simp)
      exact List.dropWhile_cons_of_neg (by simp [last])
  rw [trimChars, List.append_assoc, dropBlank_append before, front, dropBlankEnd,
    List.reverse_append, List.dropWhile_append_of_pos behind', back, List.reverse_reverse]

/-- Trimming takes away a text of blanks as a whole. -/
theorem trimChars_eq_nil_iff {s : List Char} : trimChars s = [] ↔ Blanks s := by
  constructor
  · intro nothing
    obtain ⟨lead, trail, before, behind, parts⟩ := exists_trimChars s
    rw [parts, nothing, List.append_nil]
    exact blanks_append before behind
  · intro blank
    simpa using trimChars_padded blank (List.forall_mem_nil _) blanks_nil

/-- Blanks around a text do not matter to what trimming leaves, whatever the text. -/
theorem trimChars_append {lead trail : List Char} (before : Blanks lead) (behind : Blanks trail)
    (s : List Char) : trimChars (lead ++ s ++ trail) = trimChars s := by
  have behind' : Blanks trail.reverse := fun c member => behind c (List.mem_reverse.1 member)
  rw [List.append_assoc, trimChars, dropBlank_append before, trimChars]
  by_cases blank : Blanks s
  · have nothing : dropBlank (s ++ trail) = [] :=
      List.dropWhile_eq_nil_iff.2 (blanks_append blank behind)
    rw [nothing, dropBlank, List.dropWhile_eq_nil_iff.2 blank]
  · have more : (s.dropWhile isBlank).isEmpty = false := by
      rw [List.isEmpty_eq_false_iff]
      exact fun nothing => blank (List.dropWhile_eq_nil_iff.1 nothing)
    have front : dropBlank (s ++ trail) = dropBlank s ++ trail := by
      rw [dropBlank, List.dropWhile_append, more]
      rfl
    rw [front, dropBlankEnd, List.reverse_append, List.dropWhile_append_of_pos behind',
      dropBlankEnd]

theorem trimChars_trimChars (s : List Char) : trimChars (trimChars s) = trimChars s := by
  obtain ⟨lead, trail, before, behind, parts⟩ := exists_trimChars s
  have padded := trimChars_append before behind (trimChars s)
  rw [← parts] at padded
  exact padded.symm

theorem toList_trim (s : String) : (trim s).toList = trimChars s.toList := String.toList_ofList

@[simp] theorem trim_trim (s : String) : trim (trim s) = trim s := by
  rw [trim, toList_trim, trimChars_trimChars, trim]

theorem trim_eq_empty_iff {s : String} : trim s = "" ↔ Blanks s.toList := by
  rw [← String.toList_inj, toList_trim]
  exact trimChars_eq_nil_iff

/-! ## Letters in either case -/

theorem isBlank_of_toNat {c : Char} (low : 65 ≤ c.toNat) (high : c.toNat ≤ 122) :
    isBlank c = false := by
  simp only [isBlank, Bool.or_eq_false_iff, Bool.and_eq_false_iff, decide_eq_false_iff_not,
    beq_eq_false_iff_ne]
  omega

theorem isBlank_toLower (c : Char) : isBlank c.toLower = isBlank c := by
  unfold Char.toLower
  split
  · rename_i upper
    have low : 65 ≤ c.toNat := upper.1
    have high : c.toNat ≤ 90 := upper.2
    have moved : (c.val + ('a'.val - 'A'.val)).toNat = c.toNat + 32 := by
      have width : (c.val + ('a'.val - 'A'.val)).toNat = (c.toNat + 32) % 2 ^ 32 := rfl
      omega
    rw [isBlank_of_toNat low (by omega), isBlank_of_toNat]
    · show 65 ≤ (c.val + ('a'.val - 'A'.val)).toNat
      omega
    · show (c.val + ('a'.val - 'A'.val)).toNat ≤ 122
      omega
  · rfl

theorem trimChars_map_toLower (s : List Char) :
    trimChars (s.map Char.toLower) = (trimChars s).map Char.toLower := by
  have blank : isBlank ∘ Char.toLower = isBlank := funext isBlank_toLower
  simp only [trimChars, dropBlank, dropBlankEnd, ← List.map_reverse, List.dropWhile_map, blank]

theorem lowerAscii_trim (s : String) : lowerAscii (trim s) = trim (lowerAscii s) := by
  rw [lowerAscii, toList_trim, ← trimChars_map_toLower, trim, lowerAscii, String.toList_ofList]

theorem equalIgnoringCase_iff {a b : String} :
    equalIgnoringCase a b = true ↔ lowerAscii a = lowerAscii b := beq_iff_eq

theorem equalIgnoringCase_congr {a b a' b' : String} (left : equalIgnoringCase a a' = true)
    (right : equalIgnoringCase b b' = true) : equalIgnoringCase a b = equalIgnoringCase a' b' := by
  rw [equalIgnoringCase_iff] at left right
  rw [equalIgnoringCase, equalIgnoringCase, left, right]

/-! ## Pieces -/

theorem splitChars_eq_splitOn (sep : Char) (s : List Char) :
    splitChars sep s = s.splitOn sep := by
  induction s with
  | nil => rfl
  | cons c s ih =>
    rw [splitChars, List.splitOn_cons_eq_if_modifyHead, ih]
    by_cases equal : c = sep
    · simp [equal]
    · cases split : s.splitOn sep with
      | nil => exact absurd split (List.splitOn_ne_nil sep s)
      | cons p ps => simp [equal]

theorem intercalate_splitChars (sep : Char) (s : List Char) :
    [sep].intercalate (splitChars sep s) = s := by
  rw [splitChars_eq_splitOn, List.intercalate_splitOn]

/-- Splitting undoes joining, if there are pieces and none of them has the separator. -/
theorem splitChars_intercalate {sep : Char} {pieces : List (List Char)}
    (free : ∀ p ∈ pieces, sep ∉ p) (given : pieces ≠ []) :
    splitChars sep ([sep].intercalate pieces) = pieces := by
  rw [splitChars_eq_splitOn, List.splitOn_intercalate sep free given]

/-- The first piece ends at the first separator. -/
theorem splitChars_append_cons {sep : Char} {piece : List Char} (free : sep ∉ piece)
    (s : List Char) : splitChars sep (piece ++ sep :: s) = piece :: splitChars sep s := by
  induction piece with
  | nil => simp [splitChars]
  | cons c piece ih =>
    rw [List.mem_cons, not_or] at free
    rw [List.cons_append, splitChars, if_neg (Ne.symm free.1), ih free.2]

/-- What is in joined pieces is in the separator or in some piece. -/
theorem mem_or_mem_of_mem_intercalate {α : Type} {sep : List α} {pieces : List (List α)} {c : α}
    (member : c ∈ sep.intercalate pieces) : c ∈ sep ∨ ∃ p ∈ pieces, c ∈ p := by
  induction pieces with
  | nil => simp at member
  | cons p ps ih =>
    cases ps with
    | nil => exact .inr ⟨p, by simp, by simpa using member⟩
    | cons q qs =>
      rw [List.intercalate_cons_cons, List.mem_append, List.mem_append] at member
      rcases member with (first | between) | later
      · exact .inr ⟨p, by simp, first⟩
      · exact .inl between
      · rcases ih later with between | ⟨piece, among, inside⟩
        · exact .inl between
        · exact .inr ⟨piece, List.mem_cons_of_mem _ among, inside⟩

end RecordSynth.Text
