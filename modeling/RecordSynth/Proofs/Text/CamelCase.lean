import Mathlib
import RecordSynth.Text.CamelCase
/-!
# What camel case forgets

Camel-case spelling keeps the letters and digits of a name in their order; it forgets separators and
may change the case of letters. So different names can be spelled alike, but of names in ASCII only
such as have the same letters and digits, the case of letters aside.
-/

namespace RecordSynth.Text

/-! ## Words -/

/-- A piece is cut into words without losing anything. -/
theorem flatten_pieceWords (word : List Char) (seen : LastCase) (s : List Char) (more : s ≠ []) :
    (pieceWords word seen s).flatten = word.reverse ++ s := by
  fun_induction pieceWords word seen s with
  | case1 => exact absurd rfl more
  | case2 => simp
  | case3 word seen c next rest _ ih => simp [ih]
  | case4 word seen c next rest _ _ ih => simp [ih]
  | case5 word seen c next rest _ _ ih => simp [ih]

theorem flatten_wordPieces (s : List Char) :
    (wordPieces s).flatten = s.filter isAlphanumeric := by
  fun_induction wordPieces s with
  | case1 => rfl
  | case2 c r kept none ih => simp_all
  | case3 c r kept p ps pieces ih => simp_all
  | case4 c r separator ih => simp_all

/-- The words of a name are its letters and digits. -/
theorem flatten_words (s : List Char) : (words s).flatten = s.filter isAlphanumeric := by
  have whole : ∀ p : List Char, (pieceWords [] .none p).flatten = p := by
    intro p
    cases p with
    | nil => rfl
    | cons c r => exact flatten_pieceWords [] .none (c :: r) (List.cons_ne_nil c r)
  rw [words, ← flatten_wordPieces, List.flatMap_def, List.flatten_flatten, List.map_map]
  simp only [Function.comp_def, whole, List.map_id']

/-! ## Names in ASCII -/

/-- Whether a character is one of ASCII. -/
def isAscii (c : Char) : Bool := c.toNat < 128

/-- Where all texts and all shifts but the first are for later characters, only this one counts. -/
theorem shiftChar_cons {s : CodeShift} {shifts : List CodeShift} {texts : List (Nat × List Nat)}
    {c : Char} (later : ∀ r ∈ shifts, c.toNat < r.run.first)
    (laterTexts : ∀ t ∈ texts, c.toNat < t.1) :
    shiftChar (s :: shifts) texts c = shiftChar [s] [] c := by
  have noText : texts.lookup c.toNat = none := by
    rw [List.lookup_eq_none_iff]
    intro t member
    simp [(laterTexts t member).ne]
  have noShift : shifts.find? (·.run.contains c.toNat) = none := by
    rw [List.find?_eq_none]
    intro r member
    simp [CodeRun.contains, later r member]
  rw [shiftChar, noText, shiftChar, List.lookup_nil, List.find?_cons, List.find?_cons, noShift,
    List.find?_nil]

/-- In ASCII both case maps give one character, which differs in case alone. -/
theorem toLower_case {c : Char} (ascii : isAscii c) :
    (lowercase c).map Char.toLower = [c.toLower] ∧ (uppercase c).map Char.toLower = [c.toLower] := by
  have below : c.toNat < 128 := of_decide_eq_true ascii
  -- The tables are read once for all of ASCII; only their first shifts are tried on each character.
  have small : lowercase c = shiftChar [⟨⟨0x41, 0x5A, 1⟩, 0x61⟩] [] c := by
    have later : ∀ r ∈ lowercaseShifts.tail, 128 ≤ r.run.first := by decide +kernel
    have laterTexts : ∀ t ∈ lowercaseTexts, 128 ≤ t.1 := by decide +kernel
    exact shiftChar_cons (fun r member => below.trans_le (later r member))
      fun t member => below.trans_le (laterTexts t member)
  have capital : uppercase c = shiftChar [⟨⟨0x61, 0x7A, 1⟩, 0x41⟩] [] c := by
    have later : ∀ r ∈ uppercaseShifts.tail, 128 ≤ r.run.first := by decide +kernel
    have laterTexts : ∀ t ∈ uppercaseTexts, 128 ≤ t.1 := by decide +kernel
    exact shiftChar_cons (fun r member => below.trans_le (later r member))
      fun t member => below.trans_le (laterTexts t member)
  have each : ∀ n < 128,
      (shiftChar [⟨⟨0x41, 0x5A, 1⟩, 0x61⟩] [] (Char.ofNat n)).map Char.toLower =
        [(Char.ofNat n).toLower] ∧
      (shiftChar [⟨⟨0x61, 0x7A, 1⟩, 0x41⟩] [] (Char.ofNat n)).map Char.toLower =
        [(Char.ofNat n).toLower] := by
    decide +kernel
  have known := each c.toNat below
  rwa [Char.ofNat_toNat, ← small, ← capital] at known

theorem map_toLower_lowerWord {w : List Char} (ascii : ∀ c ∈ w, isAscii c) :
    (lowerWord w).map Char.toLower = w.map Char.toLower := by
  fun_induction lowerWord w with
  | case1 => rfl
  | case2 => simp [isAscii] at ascii
  | case3 c _ => exact (toLower_case (ascii c List.mem_cons_self)).1
  | case4 c r _ ih =>
    rw [List.forall_mem_cons] at ascii
    rw [List.map_append, (toLower_case ascii.1).1, ih ascii.2, List.map_cons]
    rfl

theorem map_toLower_capitalWord {w : List Char} (ascii : ∀ c ∈ w, isAscii c) :
    (capitalWord w).map Char.toLower = w.map Char.toLower := by
  cases w with
  | nil => rfl
  | cons c r =>
    rw [List.forall_mem_cons] at ascii
    rw [capitalWord, List.map_append, (toLower_case ascii.1).2, map_toLower_lowerWord ascii.2,
      List.map_cons]
    rfl

/-- The letters and digits of a name, letters of ASCII as small ones. -/
def letters (s : String) : List Char := (s.toList.filter isAlphanumeric).map Char.toLower

/-- Camel case keeps the letters and digits of a name in ASCII. -/
theorem map_toLower_upperCamel {s : String} (ascii : s.toList.all isAscii) :
    (upperCamel s).toList.map Char.toLower = letters s := by
  have small : ∀ w ∈ words s.toList, (capitalWord w).map Char.toLower = w.map Char.toLower := by
    intro w among
    refine map_toLower_capitalWord ?_
    intro c member
    have kept : c ∈ (words s.toList).flatten := List.mem_flatten_of_mem among member
    rw [flatten_words] at kept
    exact List.all_eq_true.1 ascii c (List.mem_of_mem_filter kept)
  rw [upperCamel, String.toList_ofList, List.map_flatMap, List.flatMap_congr small, letters,
    ← flatten_words, List.map_flatten, List.flatMap_def]

/-- Names in ASCII that are spelled alike in camel case have the same letters and digits. -/
theorem letters_eq_of_upperCamel_eq {s t : String} (ascii : s.toList.all isAscii)
    (ascii' : t.toList.all isAscii) (alike : upperCamel s = upperCamel t) :
    letters s = letters t := by
  rw [← map_toLower_upperCamel ascii, ← map_toLower_upperCamel ascii', alike]

end RecordSynth.Text
