import RecordSynth.Proofs.QualifiedName
import RecordSynth.Table
/-!
# Packages and their texts

A package is edited by its segments and named by a text, and the two views agree. A text is read as a
package just if it is the text of that package, blanks around it aside. An edit by a text builds what
the edited segments build, and since those of the package are identifiers already, the only segment
that it can refuse is the one it was given.
-/

namespace RecordSynth

open Identifier (IsIdent)

namespace Identifier

theorem exists_text_iff {s : String} : (∃ a : Identifier, a.text = s) ↔ IsIdent s.toList := by
  constructor
  · rintro ⟨a, rfl⟩
    exact accepts_iff.1 a.accepts_text
  · intro word
    exact ⟨⟨s, accepts_iff.2 word⟩, rfl⟩

theorem exists_texts_iff {texts : List String} :
    (∃ as : List Identifier, as.map (·.text) = texts) ↔ ∀ s ∈ texts, IsIdent s.toList := by
  have ranges : texts ∈ Set.range (List.map text) ↔ ∀ s ∈ texts, s ∈ Set.range text := by
    rw [Set.range_list_map]
    rfl
  simpa only [Set.mem_range, exists_text_iff] using ranges

theorem find?_texts (as : List Identifier) :
    (as.map (·.text)).find? (fun s => !accepts s.toList) = none := by
  simp [accepts_text]

end Identifier

namespace PackagePath

/-! ## Segments -/

/-- The segments of a package build it. -/
theorem ofSegments_texts (p : PackagePath) : ofSegments (p.segments.map (·.text)) = .ok p := by
  have read : (p.segments.map (·.text)).filterMap Identifier.ofString? = p.segments := by
    simp [List.filterMap_map, Identifier.ofString?_text]
  obtain ⟨segments, given⟩ := p
  cases segments with
  | nil => exact absurd rfl given
  | cons a as => simp only [ofSegments, Identifier.find?_texts, read]

theorem ofSegments_eq_ok_iff {texts : List String} {p : PackagePath} :
    ofSegments texts = .ok p ↔ p.segments.map (·.text) = texts := by
  constructor
  · intro built
    cases found : texts.find? (fun s => !Identifier.accepts s.toList) with
    | some bad =>
      rw [ofSegments, found] at built
      cases built
    | none =>
      have words : ∀ s ∈ texts, IsIdent s.toList := by
        intro s member
        simpa [Identifier.accepts_iff] using List.find?_eq_none.1 found s member
      obtain ⟨as, rfl⟩ := Identifier.exists_texts_iff.2 words
      cases as with
      | nil => cases built
      | cons a as =>
        have whole := ofSegments_texts ⟨a :: as, List.cons_ne_nil a as⟩
        rw [← Except.ok.inj (whole.symm.trans built)]
  · rintro rfl
    exact ofSegments_texts p

theorem exists_ofSegments_iff {texts : List String} :
    (∃ p, ofSegments texts = .ok p) ↔ texts ≠ [] ∧ ∀ s ∈ texts, IsIdent s.toList := by
  simp only [ofSegments_eq_ok_iff]
  rw [← Identifier.exists_texts_iff]
  constructor
  · rintro ⟨p, rfl⟩
    exact ⟨by simpa using p.segments_ne_nil, p.segments, rfl⟩
  · rintro ⟨given, as, rfl⟩
    exact ⟨⟨as, by simpa using given⟩, rfl⟩

/-! ## Texts -/

/-- Between its dots a text has identifiers alone, blanks around the whole of it aside. -/
def IsPackageText (s : String) : Prop := ∀ piece ∈ Text.split '.' (Text.trim s), IsIdent piece.toList

theorem split_eq_iff {p : PackagePath} {s : String} :
    p.segments.map (·.text) = Text.split '.' s ↔ p.text = s := by
  have letters : p.text.toList = ['.'].intercalate (p.segments.map (·.text.toList)) :=
    QualifiedName.toList_dotted p.segments
  constructor
  · intro pieces
    have lists := congrArg (List.map String.toList) pieces
    simp only [Text.split, List.map_map, Function.comp_def, String.toList_ofList, List.map_id']
      at lists
    rw [← String.toList_inj, letters, lists, Text.intercalate_splitChars]
  · rintro rfl
    have free : ∀ piece ∈ p.segments.map (·.text.toList), '.' ∉ piece := by
      intro piece among
      obtain ⟨a, -, rfl⟩ := List.mem_map.1 among
      exact QualifiedName.dot_not_mem a
    have given : p.segments.map (·.text.toList) ≠ [] := by simpa using p.segments_ne_nil
    rw [Text.split, letters, Text.splitChars_intercalate free given, List.map_map]
    simp [Function.comp_def]

theorem parse_eq_ok_iff {s : String} {p : PackagePath} : parse s = .ok p ↔ p.text = Text.trim s := by
  rw [← split_eq_iff, ← ofSegments_eq_ok_iff, parse]
  cases ofSegments (Text.split '.' (Text.trim s)) <;> simp

theorem exists_parse_iff {s : String} : (∃ p, parse s = .ok p) ↔ IsPackageText s := by
  have pieces : Text.split '.' (Text.trim s) ≠ [] := by
    simpa [Text.split] using Text.splitChars_ne_nil '.' (Text.trim s).toList
  simp only [parse_eq_ok_iff, ← split_eq_iff, ← ofSegments_eq_ok_iff]
  rw [exists_ofSegments_iff, and_iff_right pieces, IsPackageText]

theorem parse_eq_error_iff {s : String} {e : Error} :
    parse s = .error e ↔ ¬ IsPackageText s ∧ e = .invalidPackage s := by
  rw [← exists_parse_iff, parse]
  cases ofSegments (Text.split '.' (Text.trim s)) <;> simp [eq_comm]

/-- There are no blanks around the text of a package. -/
theorem parse_text (p : PackagePath) : parse p.text = .ok p := by
  have named : ({ scope := p.segments.dropLast, simple := p.last } : QualifiedName).text = p.text := by
    rw [QualifiedName.text, last, List.dropLast_concat_getLast]
    exact String.append_empty
  rw [parse_eq_ok_iff, ← named, QualifiedName.trim_text]

/-! ## Names in a package -/

theorem text_qualify (p : PackagePath) (n : QualifiedName) :
    ({ n with scope := p.segments } : QualifiedName).text = p.qualify n.shortText := by
  rw [QualifiedName.text, QualifiedName.dotted_concat p.segments_ne_nil, String.append_assoc]
  rfl

/-- A simple name behind a package is read as the name of a type in it. -/
theorem parse_qualify (p : PackagePath) (n : Identifier) :
    QualifiedName.parse (p.qualify n.text) = .ok { scope := p.segments, simple := n } := by
  have spelled := p.text_qualify { scope := [], simple := n }
  rw [show QualifiedName.shortText { scope := [], simple := n } = n.text from
    String.append_empty] at spelled
  rw [QualifiedName.parse_eq_ok_iff, ← spelled, QualifiedName.trim_text]

/-- Nothing behind the name of an array is read as a name. -/
theorem parse_qualify_array (p : PackagePath) {n : QualifiedName} (array : n.rank ≠ 0)
    (a : Identifier) : QualifiedName.parse (p.qualify (n.shortText ++ a.text)) =
      .error (.invalidType (p.qualify (n.shortText ++ a.text))) := by
  let inside : QualifiedName := { n with scope := p.segments }
  have spelled : p.qualify (n.shortText ++ a.text) = inside.text ++ a.text := by
    simp only [inside, text_qualify, qualify, String.append_assoc]
  have solid : ∀ c ∈ (p.qualify (n.shortText ++ a.text)).toList, Text.isBlank c = false := by
    intro c member
    rw [spelled, String.toList_append, List.mem_append] at member
    rcases member with front | behind
    · exact QualifiedName.isBlank_of_mem_text front
    · exact QualifiedName.isBlank_of_isNameChar
        (by simp [QualifiedName.isNameChar, Identifier.isRest_of_mem a.accepts_text behind])
  have bare := Text.trimChars_padded Text.blanks_nil solid Text.blanks_nil
  rw [List.nil_append, List.append_nil] at bare
  rw [QualifiedName.parse_eq_error_iff, ← QualifiedName.exists_parse_iff]
  refine ⟨?_, rfl⟩
  rintro ⟨k, read⟩
  rw [QualifiedName.parse_eq_ok_iff, Text.trim, bare, String.ofList_toList, spelled] at read
  exact inside.text_append_ne_text array a k read.symm

/-! ## Edits -/

theorem segment_eq_ok_iff {s : String} {a : Identifier} : segment s = .ok a ↔ a.text = s := by
  rw [← Identifier.ofString?_eq_some_iff, segment]
  cases Identifier.ofString? s <;> simp

theorem exists_segment_iff {s : String} : (∃ a, segment s = .ok a) ↔ IsIdent s.toList := by
  simp only [segment_eq_ok_iff, Identifier.exists_text_iff]

theorem segment_eq_error_iff {s : String} {e : Error} :
    segment s = .error e ↔ ¬ IsIdent s.toList ∧ e = .invalidPackage s := by
  rw [← exists_segment_iff, segment]
  cases Identifier.ofString? s <;> simp [eq_comm]

/-- Behind segments that are identifiers, a text is the only one that can be refused. -/
theorem ofSegments_concat (as : List Identifier) (s : String) :
    ofSegments (as.map (·.text) ++ [s]) =
      (fun a => (⟨as ++ [a], by simp⟩ : PackagePath)) <$> segment s := by
  cases given : segment s with
  | ok a =>
    obtain rfl := segment_eq_ok_iff.1 given
    have whole := ofSegments_texts ⟨as ++ [a], by simp⟩
    rwa [List.map_append] at whole
  | error e =>
    obtain ⟨other, rfl⟩ := segment_eq_error_iff.1 given
    have refused : Identifier.accepts s.toList = false := by
      rw [← Bool.not_eq_true, Identifier.accepts_iff]
      exact other
    have found : (as.map (·.text) ++ [s]).find? (fun s => !Identifier.accepts s.toList) =
        some s := by
      rw [List.find?_append, Identifier.find?_texts]
      simp [refused]
    rw [ofSegments, found]
    rfl

/-- An edit that takes a segment as a text. It is made just if the text is an identifier, and then
`Made` holds of the text and the package; any other text, so any with a dot in it, is refused and
named in the refusal. -/
structure TakesSegment (edit : String → Except Error PackagePath)
    (Made : String → PackagePath → Prop) : Prop where
  made_iff : ∀ s, (∃ q, edit s = .ok q) ↔ IsIdent s.toList
  refused_iff : ∀ s e, edit s = .error e ↔ ¬ IsIdent s.toList ∧ e = .invalidPackage s
  dotted : ∀ s, '.' ∈ s.toList → edit s = .error (.invalidPackage s)
  made : ∀ s q, edit s = .ok q → Made s q

theorem takesSegment {edit : Identifier → PackagePath} {Made : String → PackagePath → Prop}
    (each : ∀ a, Made a.text (edit a)) : TakesSegment (fun s => edit <$> segment s) Made := by
  have made : ∀ s q, edit <$> segment s = .ok q ↔ ∃ a, a.text = s ∧ edit a = q := by
    intro s q
    simp only [← segment_eq_ok_iff]
    cases segment s <;> simp
  have refused : ∀ s e, edit <$> segment s = .error e ↔
      ¬ IsIdent s.toList ∧ e = .invalidPackage s := by
    intro s e
    rw [← segment_eq_error_iff]
    cases segment s <;> simp
  refine ⟨?_, refused, ?_, ?_⟩
  · intro s
    rw [← Identifier.exists_text_iff]
    simp [made]
  · intro s dot
    refine (refused s _).2 ⟨?_, rfl⟩
    intro word
    obtain ⟨a, rfl⟩ := Identifier.exists_text_iff.2 word
    exact QualifiedName.dot_not_mem a dot
  · intro s q given
    obtain ⟨a, rfl, rfl⟩ := (made s q).1 given
    exact each a

theorem last_inner (p : PackagePath) (a : Identifier) : (p.inner a).last = a := by
  simp [last, inner]

theorem parent?_inner (p : PackagePath) (a : Identifier) : (p.inner a).parent? = some p := by
  simp [parent?, inner, p.segments_ne_nil]

theorem last_sibling (p : PackagePath) (a : Identifier) : (p.sibling a).last = a := by
  simp [last, sibling]

theorem parent?_sibling (p : PackagePath) (a : Identifier) : (p.sibling a).parent? = p.parent? := by
  simp [parent?, sibling]

/-- Of two siblings in a row the second stays. -/
theorem sibling_sibling (p : PackagePath) (a b : Identifier) :
    (p.sibling a).sibling b = p.sibling b := by
  simp [sibling]

/-- A table has no package of dynamic statements just if it names one of clients that is none. -/
theorem dynamicStatements_eq_error_iff {table : Table} {e : Error} :
    table.dynamicStatements = .error e ↔
      ∃ c, table.clientPackage = some c ∧ ¬ IsPackageText c ∧ e = .invalidPackage c := by
  cases clients : table.clientPackage with
  | none => simp [Table.dynamicStatements, clients]
  | some c =>
    have read : table.dynamicStatements = .error e ↔ parse c = .error e := by
      rw [Table.dynamicStatements, clients]
      dsimp only
      cases parse c <;> simp
    simp [read, parse_eq_error_iff]

/-- The segments of a package agree with texts, whatever package and whatever texts these are.
Segments build a package just if there are some and all are identifiers, and a text is read as one
just if it gives such segments when it is split at its dots; reading and writing undo each other,
blanks around a text aside. A package inside another or beside it is built from edited segments, so
there is one for every identifier and for nothing else; for dynamic statements there always is. -/
theorem segments_agree_with_texts (p : PackagePath) :
    (p.segments ≠ [] ∧ (∀ a ∈ p.segments, IsIdent a.text.toList) ∧
      ofSegments (p.segments.map (·.text)) = .ok p ∧ parse p.text = .ok p) ∧
    (∀ texts, ((∃ q, ofSegments texts = .ok q) ↔ texts ≠ [] ∧ ∀ s ∈ texts, IsIdent s.toList) ∧
      ∀ q, ofSegments texts = .ok q ↔ q.segments.map (·.text) = texts) ∧
    (∀ s, ((∃ q, parse s = .ok q) ↔ IsPackageText s) ∧
      (∀ q, parse s = .ok q ↔ q.text = Text.trim s) ∧
      ∀ e, parse s = .error e ↔ ¬ IsPackageText s ∧ e = .invalidPackage s) ∧
    (∀ s, p.child s = ofSegments (p.segments.map (·.text) ++ [s]) ∧
      p.withLastReplaced s = ofSegments (p.segments.dropLast.map (·.text) ++ [s])) ∧
    TakesSegment p.child (fun s q => q.last.text = s ∧ q.parent? = some p) ∧
    TakesSegment p.withLastReplaced (fun s q => q.last.text = s ∧ q.parent? = p.parent? ∧
      q.withLastReplaced = p.withLastReplaced) ∧
    p.withLastReplaced "sql" = .ok p.dynamicStatements ∧
    p.dynamicStatements.dynamicStatements = p.dynamicStatements ∧
    ∀ (table : Table) (e : Error), table.dynamicStatements = .error e ↔
      ∃ c, table.clientPackage = some c ∧ ¬ IsPackageText c ∧ e = .invalidPackage c := by
  have sql : segment "sql" = .ok ⟨"sql", by decide⟩ := segment_eq_ok_iff.2 rfl
  refine ⟨⟨p.segments_ne_nil, ?_, p.ofSegments_texts, p.parse_text⟩, ?_, ?_, ?_, ?_, ?_, ?_, ?_, ?_⟩
  · intro a _
    exact Identifier.accepts_iff.1 a.accepts_text
  · intro texts
    exact ⟨exists_ofSegments_iff, fun q => ofSegments_eq_ok_iff⟩
  · intro s
    exact ⟨exists_parse_iff, fun q => parse_eq_ok_iff, fun e => parse_eq_error_iff⟩
  · intro s
    exact ⟨(ofSegments_concat p.segments s).symm, (ofSegments_concat p.segments.dropLast s).symm⟩
  · refine takesSegment fun a => ⟨?_, p.parent?_inner a⟩
    rw [last_inner]
  · refine takesSegment fun a => ⟨?_, p.parent?_sibling a, ?_⟩
    · rw [last_sibling]
    · funext s
      rw [withLastReplaced, withLastReplaced, funext (p.sibling_sibling a)]
  · rw [withLastReplaced, sql]
    rfl
  · exact p.sibling_sibling _ _
  · intro table e
    exact dynamicStatements_eq_error_iff

/-- Beside a package of mappers a text with a dot names nothing, the last of several replacements
stays, and a table whose package of clients has an empty segment is refused with its text as it
is. -/
theorem segments_agree_with_texts_mapper :
    let com : Identifier := ⟨"com", by decide⟩
    let mapper : PackagePath := { segments := [com, ⟨"mapper", by decide⟩] }
    let client : PackagePath := { segments := [com, ⟨"client", by decide⟩] }
    let table : Table :=
      { name := "PERSON", recordType := .ofName (.implicit ⟨"Object", by decide⟩)
        clientPackage := some " com..mapper" }
    mapper.withLastReplaced "client" = .ok client ∧
      client.withLastReplaced "sql" = .ok mapper.dynamicStatements ∧
      mapper.withLastReplaced "a.b" = .error (.invalidPackage "a.b") ∧
      table.dynamicStatements = .error (.invalidPackage " com..mapper") := by
  intro com mapper client table
  have replaced : mapper.withLastReplaced "client" = .ok client := by decide
  obtain ⟨-, -, -, -, -, beside, sql, -, refused⟩ := segments_agree_with_texts mapper
  refine ⟨replaced, ?_, beside.dotted "a.b" (by decide), ?_⟩
  · rw [(beside.made "client" client replaced).2.2, sql]
  · refine (refused table _).2 ⟨_, rfl, ?_, rfl⟩
    intro words
    have empty : "" ∈ Text.split '.' (Text.trim " com..mapper") := by decide
    cases words "" empty

end PackagePath

end RecordSynth
