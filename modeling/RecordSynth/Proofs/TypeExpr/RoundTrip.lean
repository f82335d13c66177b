import RecordSynth.Proofs.TypeExpr.Grammar
/-!
# Types and their texts

The grammar derives the text of a type, at any depth, and every text it derives is the text of its
type up to blanks. So the text of a type is a normal form of the texts that stand for it: no blanks
but one behind each comma.
-/

namespace RecordSynth

namespace TypeExpr

open Text (Blanks isBlank withoutBlanks)

/-! ## The text of a type -/

/-- The text of arguments, up to the closing bracket. -/
def argumentsText (ts : List TypeExpr) : List Char :=
  [',', ' '].intercalate (ts.map (·.text.toList)) ++ ['>']

theorem argumentsText_singleton (t : TypeExpr) :
    argumentsText [t] = t.text.toList ++ ['>'] := by
  simp [argumentsText]

theorem argumentsText_cons_cons (t u : TypeExpr) (ts : List TypeExpr) :
    argumentsText (t :: u :: ts) = t.text.toList ++ ',' :: ' ' :: argumentsText (u :: ts) := by
  simp [argumentsText]

theorem text_ofName (n : QualifiedName) : (ofName n).text = n.text := by
  rw [text, ofName, render]

theorem toList_text_cons (n : QualifiedName) (t : TypeExpr) (ts : List TypeExpr) :
    (⟨n, t :: ts⟩ : TypeExpr).text.toList = n.text.toList ++ '<' :: argumentsText (t :: ts) := by
  rw [text, render, renderAll_eq_map]
  simp only [Text.join, String.toList_append, String.toList_intercalate, List.map_map]
  simp only [argumentsText, List.append_assoc]
  rfl

theorem isType_padded {lead s : List Char} {t : TypeExpr} (blank : Blanks lead)
    (derived : IsType s t) : IsType (lead ++ s) t := by
  cases derived with
  | name before name spelled behind =>
    simpa using IsType.name (Text.blanks_append blank before) name spelled behind
  | applied before name spelled behind arguments =>
    simpa using IsType.applied (Text.blanks_append blank before) name spelled behind arguments

theorem isArguments_padded {lead s : List Char} {ts : List TypeExpr} (blank : Blanks lead)
    (derived : IsArguments s ts) : IsArguments (lead ++ s) ts := by
  cases derived with
  | last type gap => simpa using IsArguments.last (isType_padded blank type) gap
  | more type gap rest => simpa using IsArguments.more (isType_padded blank type) gap rest

theorem blanks_space : Blanks [' '] := by
  intro c member
  rw [List.mem_singleton.1 member]
  decide

mutual

/-- The grammar derives the text of every type. -/
theorem isType_text (t : TypeExpr) : IsType t.text.toList t := by
  match t with
  | ⟨n, []⟩ =>
    have derived := IsType.name Text.blanks_nil (QualifiedName.isName_text n) rfl Text.blanks_nil
    rw [show (⟨n, []⟩ : TypeExpr) = ofName n from rfl, text_ofName]
    simpa using derived
  | ⟨n, a :: as⟩ =>
    obtain ⟨inner, closed, arguments⟩ := exists_isArguments (a :: as) (by simp)
    have derived :=
      IsType.applied Text.blanks_nil (QualifiedName.isName_text n) rfl Text.blanks_nil arguments
    rw [toList_text_cons, closed]
    simpa using derived

theorem exists_isArguments (ts : List TypeExpr) (given : ts ≠ []) :
    ∃ inner, argumentsText ts = inner ++ ['>'] ∧ IsArguments inner ts := by
  match ts with
  | [] => exact absurd rfl given
  | [t] =>
    refine ⟨t.text.toList, argumentsText_singleton t, ?_⟩
    simpa using IsArguments.last (isType_text t) Text.blanks_nil
  | t :: u :: us =>
    obtain ⟨inner, closed, others⟩ := exists_isArguments (u :: us) (by simp)
    refine ⟨t.text.toList ++ ',' :: ' ' :: inner, ?_, ?_⟩
    · rw [argumentsText_cons_cons, closed]
      simp
    · simpa using
        IsArguments.more (isType_text t) Text.blanks_nil (isArguments_padded blanks_space others)

end

/-- Every type is read back from its text. -/
theorem parse_text (t : TypeExpr) : parse t.text = .ok t := by
  rw [parse_eq_ok_iff, isTypeText_iff]
  exact ⟨t.text.toList, [], isType_text t, Text.blanks_nil, (List.append_nil _).symm⟩

/-- Types with the same text are the same. -/
theorem text_injective {t u : TypeExpr} (equal : t.text = u.text) : t = u := by
  have read := parse_text t
  rw [equal, parse_text u] at read
  exact (Except.ok.inj read).symm

/-! ## What a text that is read looks like -/

theorem withoutBlanks_name {n : QualifiedName} : withoutBlanks n.text.toList = n.text.toList :=
  Text.withoutBlanks_eq_self fun _ => QualifiedName.isBlank_of_mem_text

mutual

/-- Up to blanks, a text that derives a type is the text of the type. -/
theorem withoutBlanks_of_isType {s : List Char} {t : TypeExpr} (derived : IsType s t) :
    withoutBlanks s = withoutBlanks t.text.toList := by
  cases derived with
  | name before _ spelled behind =>
    rw [text_ofName, ← spelled, Text.withoutBlanks_append, Text.withoutBlanks_append,
      Text.withoutBlanks_eq_nil_iff.2 before, Text.withoutBlanks_eq_nil_iff.2 behind,
      List.nil_append, List.append_nil]
  | applied before _ spelled behind arguments =>
    obtain ⟨a, as, rfl, inside⟩ := withoutBlanks_of_isArguments arguments
    rw [toList_text_cons, ← spelled, List.append_assoc, List.cons_append, Text.withoutBlanks_append,
      Text.withoutBlanks_append, Text.withoutBlanks_append, Text.withoutBlanks_eq_nil_iff.2 before,
      Text.withoutBlanks_eq_nil_iff.2 behind, Text.withoutBlanks_cons, inside,
      ← Text.withoutBlanks_cons, Text.withoutBlanks_append]
    simp

theorem withoutBlanks_of_isArguments {s : List Char} {ts : List TypeExpr}
    (derived : IsArguments s ts) :
    ∃ a as, ts = a :: as ∧
      withoutBlanks (s ++ ['>']) = withoutBlanks (argumentsText (a :: as)) := by
  cases derived with
  | @last _ _ t type blank =>
    refine ⟨t, [], rfl, ?_⟩
    rw [argumentsText_singleton, Text.withoutBlanks_append, Text.withoutBlanks_append,
      Text.withoutBlanks_eq_nil_iff.2 blank, withoutBlanks_of_isType type, List.append_nil,
      Text.withoutBlanks_append]
  | @more _ _ others t ts type blank rest =>
    obtain ⟨a, as, rfl, behind⟩ := withoutBlanks_of_isArguments rest
    refine ⟨t, a :: as, rfl, ?_⟩
    rw [argumentsText_cons_cons, List.append_assoc, List.cons_append, Text.withoutBlanks_append,
      Text.withoutBlanks_append, Text.withoutBlanks_append, Text.withoutBlanks_eq_nil_iff.2 blank,
      withoutBlanks_of_isType type, Text.withoutBlanks_cons, behind]
    simp [Text.withoutBlanks_cons, show isBlank ',' = false by decide,
      show isBlank ' ' = true by decide]

end

/-- Up to blanks, a text that is read as a type is the text of the type. -/
theorem withoutBlanks_of_parse {s : String} {t : TypeExpr} (read : parse s = .ok t) :
    withoutBlanks s.toList = withoutBlanks t.text.toList := by
  rw [parse_eq_ok_iff, isTypeText_iff] at read
  obtain ⟨front, trail, derived, blank, whole⟩ := read
  rw [whole, Text.withoutBlanks_append, Text.withoutBlanks_eq_nil_iff.2 blank, List.append_nil,
    withoutBlanks_of_isType derived]

/-! ## Normal forms -/

/-- The text with one blank put behind every comma. -/
def spaceCommas (s : List Char) : List Char :=
  s.flatMap fun c => if c = ',' then [',', ' '] else [c]

theorem spaceCommas_append (s t : List Char) :
    spaceCommas (s ++ t) = spaceCommas s ++ spaceCommas t := List.flatMap_append

theorem spaceCommas_cons (c : Char) (s : List Char) :
    spaceCommas (c :: s) = (if c = ',' then [',', ' '] else [c]) ++ spaceCommas s := rfl

theorem spaceCommas_name (n : QualifiedName) : spaceCommas n.text.toList = n.text.toList := by
  have kept : ∀ s : List Char, (∀ c ∈ s, c ≠ ',') → spaceCommas s = s := by
    intro s free
    induction s with
    | nil => rfl
    | cons c s ih =>
      rw [spaceCommas_cons, if_neg (free c (by simp)), ih fun d member => free d (by simp [member])]
      rfl
  refine kept _ ?_
  rintro c member rfl
  exact absurd (QualifiedName.isNameChar_of_mem_text member) (by decide)

mutual

/-- The text of a type has no blank but one behind each comma. -/
theorem text_normal (t : TypeExpr) :
    t.text.toList = spaceCommas (withoutBlanks t.text.toList) := by
  match t with
  | ⟨n, []⟩ =>
    rw [show (⟨n, []⟩ : TypeExpr) = ofName n from rfl, text_ofName, withoutBlanks_name,
      spaceCommas_name]
  | ⟨n, a :: as⟩ =>
    have inner := argumentsText_normal (a :: as) (by simp)
    rw [toList_text_cons, Text.withoutBlanks_append, withoutBlanks_name, spaceCommas_append,
      spaceCommas_name, Text.withoutBlanks_cons, if_neg (by decide), spaceCommas_cons, ← inner]
    rfl

/-- The text of arguments has no blank but one behind each comma. -/
theorem argumentsText_normal (ts : List TypeExpr) (given : ts ≠ []) :
    argumentsText ts = spaceCommas (withoutBlanks (argumentsText ts)) := by
  match ts with
  | [] => exact absurd rfl given
  | [t] =>
    have first := text_normal t
    rw [argumentsText_singleton, Text.withoutBlanks_append, spaceCommas_append, ← first]
    rfl
  | t :: u :: us =>
    have first := text_normal t
    have others := argumentsText_normal (u :: us) (by simp)
    rw [argumentsText_cons_cons, Text.withoutBlanks_append, spaceCommas_append, ← first,
      Text.withoutBlanks_cons, if_neg (by decide), Text.withoutBlanks_cons, if_pos (by decide),
      spaceCommas_cons, ← others]
    rfl

end

/-- The text of a type is the normal form of every text that stands for it. Each type is read back
from its text, so no two types share one; and a text that is read, with all blanks deleted and then
one put behind each comma, is that of its type, so two such texts stand for the same type exactly if
they are the same up to blanks. The operations on types give types, so nothing more has to be asked
of a type. -/
theorem text_roundTrip :
    (∀ t : TypeExpr, parse t.text = .ok t) ∧
      (∀ t u : TypeExpr, t.text = u.text → t = u) ∧
      (∀ (s : String) (t : TypeExpr), parse s = .ok t →
        t.text = String.ofList (spaceCommas (withoutBlanks s.toList))) ∧
      ∀ (s u : String) (t v : TypeExpr), parse s = .ok t → parse u = .ok v →
        (t = v ↔ withoutBlanks s.toList = withoutBlanks u.toList) := by
  refine ⟨parse_text, fun _ _ => text_injective, ?_, ?_⟩
  · intro s t read
    rw [withoutBlanks_of_parse read, ← text_normal, String.ofList_toList]
  · intro s u t v readS readU
    rw [withoutBlanks_of_parse readS, withoutBlanks_of_parse readU]
    constructor
    · rintro rfl
      rfl
    · intro equal
      refine text_injective (String.toList_inj.1 ?_)
      rw [text_normal t, equal, ← text_normal v]

/-- Two texts of one type, of which the second is the normal form. -/
theorem text_roundTrip_map :
    let map : TypeExpr :=
      { name :=
          { scope := [⟨"java", by decide⟩, ⟨"util", by decide⟩], simple := ⟨"Map", by decide⟩ }
        arguments := [.ofName { scope := [], simple := ⟨"K", by decide⟩ },
          .ofName { scope := [], simple := ⟨"V", by decide⟩, rank := 1 }] }
    parse " java.util.Map <K\t,V[] > " = .ok map ∧ parse "java.util.Map<K, V[]>" = .ok map ∧
      map.text = "java.util.Map<K, V[]>" ∧
      withoutBlanks " java.util.Map <K\t,V[] > ".toList =
        withoutBlanks "java.util.Map<K, V[]>".toList := by
  intro map
  have loose : parse " java.util.Map <K\t,V[] > " = .ok map := by cbv
  have tight : parse "java.util.Map<K, V[]>" = .ok map := text_roundTrip.1 map
  refine ⟨loose, tight, ?_, ?_⟩
  · rw [text_roundTrip.2.2.1 _ _ loose]
    decide
  · exact (text_roundTrip.2.2.2 _ _ _ _ loose tight).1 rfl

end TypeExpr

end RecordSynth
