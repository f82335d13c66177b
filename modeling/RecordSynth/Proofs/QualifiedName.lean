import RecordSynth.Proofs.Text
import RecordSynth.QualifiedName
/-!
# Names and their texts

A name is read from a text exactly if the text is its own, so names with the same text are the same.
The text of a name has no blank in it and none of the characters that end a name.
-/

namespace RecordSynth

namespace Identifier

/-- The code points of the characters that follow in an identifier. -/
theorem toNat_of_isRest {c : Char} (rest : isRest c = true) :
    (65 ≤ c.toNat ∧ c.toNat ≤ 90) ∨ (97 ≤ c.toNat ∧ c.toNat ≤ 122) ∨
      (48 ≤ c.toNat ∧ c.toNat ≤ 57) ∨ c.toNat = 95 ∨ c.toNat = 36 := by
  simp only [isRest, Char.isAlphanum, Char.isAlpha, Char.isUpper, Char.isLower, Char.isDigit,
    Bool.or_eq_true, Bool.and_eq_true, decide_eq_true_eq, beq_iff_eq, UInt32.le_iff_toNat_le,
    ge_iff_le] at rest
  rcases rest with ((((upper | lower) | digit)) | rfl) | rfl
  · exact .inl upper
  · exact .inr (.inl lower)
  · exact .inr (.inr (.inl digit))
  · decide
  · decide

/-! ## The grammar of identifiers -/

/-- `[A-Za-z_$]` -/
def IsLetter (c : Char) : Prop :=
  ('A' ≤ c ∧ c ≤ 'Z') ∨ ('a' ≤ c ∧ c ≤ 'z') ∨ c = '_' ∨ c = '$'

/-- `[0-9]` -/
def IsDigit (c : Char) : Prop := '0' ≤ c ∧ c ≤ '9'

/-- `Ident ::= [A-Za-z_$][A-Za-z0-9_$]*` -/
inductive IsIdent : List Char → Prop
  | word {c : Char} {r : List Char} (first : IsLetter c) (others : ∀ d ∈ r, IsLetter d ∨ IsDigit d) :
    IsIdent (c :: r)

theorem isStart_iff {c : Char} : isStart c = true ↔ IsLetter c := by
  simp [isStart, IsLetter, Char.isAlpha, Char.isUpper, Char.isLower, Char.le_def, or_assoc]

theorem isRest_iff {c : Char} : isRest c = true ↔ IsLetter c ∨ IsDigit c := by
  rw [← isStart_iff]
  simp [isRest, isStart, IsDigit, Char.isAlphanum, Char.isDigit, Char.le_def, or_assoc, or_comm,
    or_left_comm]

theorem accepts_iff {s : List Char} : accepts s = true ↔ IsIdent s := by
  cases s with
  | nil =>
    constructor
    · intro accepted
      cases accepted
    · intro word
      cases word
  | cons c r =>
    rw [accepts, Bool.and_eq_true, List.all_eq_true, isStart_iff]
    simp only [isRest_iff]
    constructor
    · rintro ⟨first, others⟩
      exact .word first others
    · rintro (⟨first, others⟩)
      exact ⟨first, others⟩

theorem toList_ne_nil (a : Identifier) : a.text.toList ≠ [] := by
  intro empty
  have accepted := a.accepts_text
  rw [empty] at accepted
  cases accepted

end Identifier

namespace QualifiedName

/-! ## Characters of names -/

/-- The characters of the text of a name: those of identifiers, dots and brackets. -/
def isNameChar (c : Char) : Bool := Identifier.isRest c || c == '.' || c == '[' || c == ']'

theorem isBlank_of_isNameChar {c : Char} (named : isNameChar c = true) :
    Text.isBlank c = false := by
  simp only [isNameChar, Bool.or_eq_true, beq_iff_eq] at named
  rcases named with ((rest | rfl) | rfl) | rfl
  · have range := Identifier.toNat_of_isRest rest
    simp only [Text.isBlank, Bool.or_eq_false_iff, Bool.and_eq_false_iff, decide_eq_false_iff_not,
      beq_eq_false_iff_ne]
    omega
  · decide
  · decide
  · decide

theorem dot_not_mem (a : Identifier) : '.' ∉ a.text.toList := by
  intro member
  have rest := Identifier.isRest_of_mem a.accepts_text member
  revert rest
  decide

/-! ## The text of a name -/

theorem toList_dotted (segments : List Identifier) :
    (dotted segments).toList = ['.'].intercalate (segments.map (·.text.toList)) := by
  rw [dotted, Text.join, String.toList_intercalate, List.map_map]
  rfl

theorem toList_text (n : QualifiedName) :
    n.text.toList = (dotted (n.scope ++ [n.simple])).toList ++ brackets n.rank := by
  rw [text, String.toList_append, String.toList_ofList]

theorem mem_brackets {rank : Nat} {c : Char} (member : c ∈ brackets rank) : c = '[' ∨ c = ']' := by
  induction rank with
  | zero => simp [brackets] at member
  | succ rank ih =>
    simp only [brackets, List.mem_cons] at member
    rcases member with rfl | rfl | later
    · exact .inl rfl
    · exact .inr rfl
    · exact ih later

theorem isNameChar_of_mem_text {n : QualifiedName} {c : Char} (member : c ∈ n.text.toList) :
    isNameChar c = true := by
  rw [toList_text, toList_dotted, List.mem_append] at member
  rcases member with inside | behind
  · rcases Text.mem_or_mem_of_mem_intercalate inside with dot | ⟨piece, among, letter⟩
    · rw [List.mem_singleton.1 dot]
      decide
    · obtain ⟨a, -, rfl⟩ := List.mem_map.1 among
      simp [isNameChar, Identifier.isRest_of_mem a.accepts_text letter]
  · rcases mem_brackets behind with rfl | rfl <;> decide

theorem isBlank_of_mem_text {n : QualifiedName} {c : Char} (member : c ∈ n.text.toList) :
    Text.isBlank c = false :=
  isBlank_of_isNameChar (isNameChar_of_mem_text member)

/-! ## Reading a name -/

theorem identifiers?_texts (segments : List Identifier) :
    identifiers? (segments.map (·.text.toList)) = some segments := by
  induction segments with
  | nil => rfl
  | cons a segments ih =>
    rw [identifiers?] at ih ⊢
    simp [List.mapM_cons, Identifier.ofString?_text, ih]

theorem texts_of_identifiers? {pieces : List (List Char)} {segments : List Identifier}
    (read : identifiers? pieces = some segments) : segments.map (·.text.toList) = pieces := by
  induction pieces generalizing segments with
  | nil =>
    simp only [identifiers?, List.mapM_nil, Option.pure_def, Option.some.injEq] at read
    simp [← read]
  | cons p pieces ih =>
    simp only [identifiers?, List.mapM_cons, Option.bind_eq_bind, Option.bind_eq_some_iff,
      Option.pure_def, Option.some.injEq] at read
    obtain ⟨a, first, as, others, rfl⟩ := read
    rw [Identifier.ofString?_eq_some_iff] at first
    rw [List.map_cons, first, String.toList_ofList, ih others]

theorem brackets_append (rank : Nat) : brackets rank ++ ['[', ']'] = brackets (rank + 1) := by
  induction rank with
  | zero => rfl
  | succ rank ih =>
    rw [brackets, List.cons_append, List.cons_append, ih]
    rfl

theorem reverse_brackets_succ (rank : Nat) :
    (brackets (rank + 1)).reverse = ']' :: '[' :: (brackets rank).reverse := by
  induction rank with
  | zero => rfl
  | succ rank ih =>
    have outer : (brackets (rank + 2)).reverse = (brackets (rank + 1)).reverse ++ [']', '['] := by
      simp [brackets]
    have inner : (brackets (rank + 1)).reverse = (brackets rank).reverse ++ [']', '['] := by
      simp [brackets]
    rw [outer, ih, List.cons_append, List.cons_append, ← inner, ih]

/-- Array brackets are split from a reversed text that does not start with one. -/
theorem splitBrackets_append (rank : Nat) {front : List Char} (bare : front.head? ≠ some ']') :
    splitBrackets ((brackets rank).reverse ++ front) = (rank, front) := by
  induction rank with
  | zero =>
    rw [brackets, List.reverse_nil, List.nil_append]
    unfold splitBrackets
    split
    · exact absurd rfl bare
    · rfl
  | succ rank ih =>
    rw [reverse_brackets_succ, List.cons_append, List.cons_append, splitBrackets, ih]

theorem eq_append_of_splitBrackets {s front : List Char} {rank : Nat}
    (split : splitBrackets s = (rank, front)) : s = (brackets rank).reverse ++ front := by
  induction s using splitBrackets.induct generalizing rank with
  | case1 r ih =>
    rw [splitBrackets, Prod.mk.injEq] at split
    obtain ⟨rfl, rfl⟩ := split
    rw [reverse_brackets_succ, List.cons_append, List.cons_append, ← ih rfl]
  | case2 s bare =>
    have whole : splitBrackets s = (0, s) := by
      unfold splitBrackets
      split
      · exact absurd rfl (bare _)
      · rfl
    rw [whole, Prod.mk.injEq] at split
    obtain ⟨rfl, rfl⟩ := split
    rfl

/-- The last character in front of the brackets is one of an identifier. -/
theorem head?_reverse_dotted (n : QualifiedName) :
    (dotted (n.scope ++ [n.simple])).toList.reverse.head? ≠ some ']' := by
  rw [List.head?_reverse, toList_dotted]
  intro last
  have member := List.mem_of_getLast? last
  rcases Text.mem_or_mem_of_mem_intercalate member with dot | ⟨piece, among, letter⟩
  · exact absurd dot (by decide)
  · obtain ⟨a, -, rfl⟩ := List.mem_map.1 among
    exact absurd (Identifier.isRest_of_mem a.accepts_text letter) (by decide)

theorem ofChars?_text (n : QualifiedName) : ofChars? n.text.toList = some n := by
  have split : splitBrackets n.text.toList.reverse =
      (n.rank, (dotted (n.scope ++ [n.simple])).toList.reverse) := by
    rw [toList_text, List.reverse_append, splitBrackets_append n.rank (head?_reverse_dotted n)]
  have pieces : Text.splitChars '.' (dotted (n.scope ++ [n.simple])).toList =
      (n.scope ++ [n.simple]).map (·.text.toList) := by
    rw [toList_dotted]
    refine Text.splitChars_intercalate ?_ (by simp)
    intro piece among
    obtain ⟨a, -, rfl⟩ := List.mem_map.1 among
    exact dot_not_mem a
  rw [ofChars?, split]
  dsimp only
  rw [List.reverse_reverse, pieces, identifiers?_texts]
  simp

theorem text_of_ofChars? {s : List Char} {n : QualifiedName} (read : ofChars? s = some n) :
    n.text.toList = s := by
  unfold ofChars? at read
  split at read
  rename_i rank front split
  split at read
  · cases read
  rename_i segments found
  split at read
  · cases read
  rename_i simple last
  obtain rfl := Option.some.inj read
  have whole := congrArg List.reverse (eq_append_of_splitBrackets split)
  rw [List.reverse_reverse, List.reverse_append, List.reverse_reverse] at whole
  obtain ⟨scope, rfl⟩ := List.getLast?_eq_some_iff.1 last
  rw [toList_text, List.dropLast_concat, toList_dotted, texts_of_identifiers? found,
    Text.intercalate_splitChars, ← whole]

/-- A name is read from a text exactly if the text is its own. -/
theorem ofChars?_eq_some_iff {s : List Char} {n : QualifiedName} :
    ofChars? s = some n ↔ n.text.toList = s := by
  constructor
  · exact text_of_ofChars?
  · rintro rfl
    exact ofChars?_text n

/-- There are no blanks around the text of a name. -/
theorem trim_text (n : QualifiedName) : Text.trim n.text = n.text := by
  have solid : ∀ c ∈ n.text.toList, Text.isBlank c = false := fun _ => isBlank_of_mem_text
  have bare := Text.trimChars_padded Text.blanks_nil solid Text.blanks_nil
  rw [List.nil_append, List.append_nil] at bare
  rw [Text.trim, bare, String.ofList_toList]

theorem parse_eq_ok_iff {s : String} {n : QualifiedName} :
    parse s = .ok n ↔ n.text = Text.trim s := by
  have read : parse s = .ok n ↔ ofChars? (Text.trimChars s.toList) = some n := by
    rw [parse]
    cases ofChars? (Text.trimChars s.toList) <;> simp
  rw [read, ofChars?_eq_some_iff, Text.trim, ← String.toList_inj, String.toList_ofList]

/-- Names with the same text are the same. -/
theorem text_injective {n k : QualifiedName} (equal : n.text = k.text) : n = k := by
  have read := ofChars?_text n
  rw [equal, ofChars?_text k] at read
  exact (Option.some.inj read).symm

/-- A name without its package is spelled by its short text. -/
theorem text_unqualified (n : QualifiedName) : n.unqualified.text = n.shortText := by
  simp [text, unqualified, shortText, dotted, Text.join]

/-- Names without packages are known by their short texts. -/
theorem unqualified_eq_iff {n k : QualifiedName} :
    n.unqualified = k.unqualified ↔ n.shortText = k.shortText := by
  rw [← text_unqualified, ← text_unqualified]
  exact ⟨congrArg text, text_injective⟩

/-- The text of a name ends in brackets exactly if it is that of an array. -/
theorem brackets_suffix_iff {n : QualifiedName} :
    ['[', ']'] <:+ n.text.toList ↔ n.rank ≠ 0 := by
  rw [toList_text]
  constructor
  · rintro ⟨front, whole⟩ flat
    rw [flat, brackets, List.append_nil] at whole
    refine head?_reverse_dotted n ?_
    rw [← whole, List.reverse_append]
    rfl
  · intro array
    obtain ⟨rank, more⟩ := Nat.exists_eq_succ_of_ne_zero array
    rw [more, Nat.succ_eq_add_one, ← brackets_append, ← List.append_assoc]
    exact List.suffix_append _ _

theorem rank_ne_zero_of_bracket_mem {n : QualifiedName} (member : '[' ∈ n.text.toList) :
    n.rank ≠ 0 := by
  intro flat
  rw [toList_text, flat, brackets, List.append_nil, toList_dotted] at member
  rcases Text.mem_or_mem_of_mem_intercalate member with dot | ⟨piece, among, letter⟩
  · exact absurd (List.mem_singleton.1 dot) (by decide)
  · obtain ⟨a, -, rfl⟩ := List.mem_map.1 among
    exact absurd (Identifier.isRest_of_mem a.accepts_text letter) (by decide)

/-- Brackets are the end of a name. -/
theorem text_append_ne_text {n : QualifiedName} (array : n.rank ≠ 0) (a : Identifier)
    (k : QualifiedName) : n.text ++ a.text ≠ k.text := by
  intro same
  have letters : n.text.toList ++ a.text.toList = k.text.toList := by
    rw [← same, String.toList_append]
  obtain ⟨front, brackets⟩ := brackets_suffix_iff.2 array
  have inside : '[' ∈ k.text.toList := by
    rw [← letters, ← brackets]
    simp
  obtain ⟨front', brackets'⟩ := brackets_suffix_iff.2 (rank_ne_zero_of_bracket_mem inside)
  have last : (n.text.toList ++ a.text.toList).getLast? = some ']' := by
    rw [letters, ← brackets']
    simp
  rw [List.getLast?_append_of_ne_nil _ a.toList_ne_nil] at last
  have letter := Identifier.isRest_of_mem a.accepts_text (List.mem_of_getLast? last)
  exact absurd letter (by decide)

theorem dotted_concat {scope : List Identifier} (given : scope ≠ []) (simple : Identifier) :
    dotted (scope ++ [simple]) = dotted scope ++ "." ++ simple.text := by
  refine String.toList_inj.1 ?_
  rw [String.toList_append, String.toList_append, toList_dotted, toList_dotted]
  induction scope with
  | nil => exact absurd rfl given
  | cons a scope ih =>
    cases scope with
    | nil => simp
    | cons b scope => simpa using ih (by simp)

/-! ## The grammar of names -/

open Identifier (IsIdent)

/-- `Path ::= Ident { '.' Ident }` -/
inductive IsPath : List Char → Prop
  | last {w : List Char} (word : IsIdent w) : IsPath w
  | dot {w p : List Char} (word : IsIdent w) (rest : IsPath p) : IsPath (w ++ '.' :: p)

/-- `Name ::= Path { '[]' }` -/
inductive IsName : List Char → Prop
  | path {p : List Char} (path : IsPath p) : IsName p
  | array {s : List Char} (element : IsName s) : IsName (s ++ ['[', ']'])

theorem exists_segments_of_isPath {p : List Char} (path : IsPath p) :
    ∃ scope simple, (dotted (scope ++ [simple])).toList = p := by
  induction path with
  | @last w word =>
    have accepted : Identifier.accepts (String.ofList w).toList = true := by
      rwa [String.toList_ofList, Identifier.accepts_iff]
    refine ⟨[], ⟨String.ofList w, accepted⟩, ?_⟩
    simp [toList_dotted]
  | @dot w p word _ ih =>
    obtain ⟨scope, simple, rfl⟩ := ih
    have accepted : Identifier.accepts (String.ofList w).toList = true := by
      rwa [String.toList_ofList, Identifier.accepts_iff]
    refine ⟨⟨String.ofList w, accepted⟩ :: scope, simple, ?_⟩
    rw [toList_dotted, toList_dotted]
    cases scope <;> simp

theorem isPath_dotted (scope : List Identifier) (simple : Identifier) :
    IsPath (dotted (scope ++ [simple])).toList := by
  induction scope with
  | nil =>
    rw [toList_dotted]
    simpa using IsPath.last (Identifier.accepts_iff.1 simple.accepts_text)
  | cons a scope ih =>
    have longer : (dotted (a :: scope ++ [simple])).toList =
        a.text.toList ++ '.' :: (dotted (scope ++ [simple])).toList := by
      rw [toList_dotted, toList_dotted]
      cases scope <;> simp
    rw [longer]
    exact .dot (Identifier.accepts_iff.1 a.accepts_text) ih

theorem isName_text (n : QualifiedName) : IsName n.text.toList := by
  rw [toList_text]
  obtain ⟨scope, simple, rank⟩ := n
  induction rank with
  | zero =>
    rw [brackets, List.append_nil]
    exact .path (isPath_dotted scope simple)
  | succ rank ih =>
    rw [← brackets_append, ← List.append_assoc]
    exact .array ih

/-- The names of the grammar are the texts of names. -/
theorem isName_iff {w : List Char} : IsName w ↔ ∃ n : QualifiedName, n.text.toList = w := by
  constructor
  · intro name
    induction name with
    | path path =>
      obtain ⟨scope, simple, rfl⟩ := exists_segments_of_isPath path
      refine ⟨{ scope, simple }, ?_⟩
      rw [toList_text, brackets, List.append_nil]
    | array _ ih =>
      obtain ⟨n, rfl⟩ := ih
      refine ⟨{ n with rank := n.rank + 1 }, ?_⟩
      rw [toList_text, toList_text, List.append_assoc, brackets_append]
  · rintro ⟨n, rfl⟩
    exact isName_text n

/-- A name, blanks around it aside. -/
def IsNameText (s : String) : Prop := IsName (Text.trim s).toList

theorem exists_parse_iff {s : String} : (∃ n, parse s = .ok n) ↔ IsNameText s := by
  simp only [parse_eq_ok_iff, ← String.toList_inj]
  exact isName_iff.symm

theorem parse_eq_error_iff {s : String} {e : Error} :
    parse s = .error e ↔ ¬ IsNameText s ∧ e = .invalidType s := by
  rw [← exists_parse_iff, parse]
  cases ofChars? (Text.trimChars s.toList) <;> simp [eq_comm]

end QualifiedName

end RecordSynth
