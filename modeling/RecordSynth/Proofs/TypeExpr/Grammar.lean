import RecordSynth.Proofs.QualifiedName
import RecordSynth.TypeExpr.Reader
/-!
# The grammar of types

Reading a type accepts a text exactly if the grammar derives it, and gives the tree of the
derivation. A derivation may leave blanks behind a type to the text that follows, where the reader
may take them, so what is left of a text is compared up to blanks in front.
-/

namespace RecordSynth

namespace TypeExpr

open Text (Blanks dropBlank isBlank)
open QualifiedName (IsName)

mutual

/-- `Type ::= ws* Name ws* [ '<' Arguments '>' ]`, and the tree of the derivation. -/
inductive IsType : List Char → TypeExpr → Prop
  | name {lead w trail : List Char} {n : QualifiedName} (before : Blanks lead) (name : IsName w)
      (spelled : n.text.toList = w) (behind : Blanks trail) :
      IsType (lead ++ w ++ trail) (ofName n)
  | applied {lead w trail inner : List Char} {n : QualifiedName} {ts : List TypeExpr}
      (before : Blanks lead) (name : IsName w) (spelled : n.text.toList = w)
      (behind : Blanks trail) (arguments : IsArguments inner ts) :
      IsType (lead ++ w ++ trail ++ '<' :: inner ++ ['>']) ⟨n, ts⟩

/-- `Arguments ::= Type { ws* ',' Type } ws*`, and the trees in order. -/
inductive IsArguments : List Char → List TypeExpr → Prop
  | last {s gap : List Char} {t : TypeExpr} (type : IsType s t) (blank : Blanks gap) :
      IsArguments (s ++ gap) [t]
  | more {s gap others : List Char} {t : TypeExpr} {ts : List TypeExpr} (type : IsType s t)
      (blank : Blanks gap) (rest : IsArguments others ts) :
      IsArguments (s ++ gap ++ ',' :: others) (t :: ts)

end

/-- A whole text: `Type ws*`. -/
def IsTypeText (s : List Char) (t : TypeExpr) : Prop :=
  ∃ front trail, IsType front t ∧ Blanks trail ∧ s = front ++ trail

/-! ## What a reading gives

Readings carry a proof that they end. Here they are compared without it. -/

/-- What was read, and the text behind it. -/
def Reading.seen {α : Type} {s : List Char} (x : Option (Reading α s)) :
    Option (α × List Char) :=
  x.map fun z => (z.1, z.2.val)

theorem length_of_seen {α : Type} {s r : List Char} {x : Option (Reading α s)} {a : α}
    (read : Reading.seen x = some (a, r)) : r.length < s.length := by
  obtain ⟨⟨b, rest, shorter⟩, -, equal⟩ := Option.map_eq_some_iff.1 read
  rw [Prod.mk.injEq] at equal
  rw [← equal.2]
  exact shorter

theorem seen_readName (s : List Char) :
    Reading.seen (readName s) =
      (QualifiedName.ofChars? (Text.trimChars (s.takeWhile (!isDelimiter ·)))).map
        fun n => (n, s.dropWhile (!isDelimiter ·)) := by
  unfold readName
  split
  · rename_i unread
    simp [Reading.seen, unread]
  · rename_i n read
    simp [Reading.seen, read]

theorem seen_readType (s : List Char) :
    Reading.seen (readType s) = (Reading.seen (readName s)).bind fun (n, r) =>
      match dropBlank r with
      | '<' :: inner => (Reading.seen (readArguments inner)).map fun (ts, rest) => (⟨n, ts⟩, rest)
      | rest => some (ofName n, rest) := by
  rw [readType]
  cases readName s with
  | none => rfl
  | some name =>
    obtain ⟨n, r, shorter⟩ := name
    simp only [Reading.seen, Option.map_some, Option.bind_some]
    split
    · rename_i inner opened
      simp only [opened]
      cases readArguments inner with
      | none => rfl
      | some read => rfl
    · rename_i other
      split
      · rename_i inner opened
        exact absurd opened (other inner)
      · rfl

theorem seen_readArguments (s : List Char) :
    Reading.seen (readArguments s) = (Reading.seen (readType s)).bind fun (t, r) =>
      match dropBlank r with
      | ',' :: more => (Reading.seen (readArguments more)).map fun (ts, rest) => (t :: ts, rest)
      | '>' :: rest => some ([t], rest)
      | _ => none := by
  rw [readArguments]
  cases readType s with
  | none => rfl
  | some read =>
    obtain ⟨t, r, shorter⟩ := read
    simp only [Reading.seen, Option.map_some, Option.bind_some]
    split
    · rename_i more comma
      simp only [comma]
      cases readArguments more with
      | none => rfl
      | some read => rfl
    · rename_i rest closed
      simp only [closed, Option.map_some]
    · rename_i noComma unclosed
      split
      · rename_i more comma
        exact absurd comma (noComma more)
      · rename_i rest closed
        exact absurd closed (unclosed rest)
      · rfl

/-! ## The ends of names and types -/

/-- A text that cannot be part of a type in front of it. -/
def EndsType (rest : List Char) : Prop := ∀ c, rest.head? = some c → c = ',' ∨ c = '>'

theorem endsType_nil : EndsType [] := by
  intro c first
  cases first

theorem endsType_cons {c : Char} (closing : c = ',' ∨ c = '>') (rest : List Char) :
    EndsType (c :: rest) := by
  intro d first
  rwa [← Option.some.inj first]

theorem dropBlank_of_endsType {rest : List Char} (ends : EndsType rest) :
    dropBlank rest = rest := by
  cases rest with
  | nil => rfl
  | cons c rest =>
    refine Text.dropBlank_cons ?_ rest
    rcases ends c rfl with rfl | rfl <;> decide

theorem not_isDelimiter_of_isBlank {c : Char} (blank : isBlank c = true) :
    isDelimiter c = false := by
  cases given : isDelimiter c with
  | false => rfl
  | true =>
    simp only [isDelimiter, Bool.or_eq_true, beq_iff_eq] at given
    rcases given with (rfl | rfl) | rfl <;> exact absurd blank (by decide)

theorem not_isDelimiter_of_mem_text {n : QualifiedName} {c : Char} (member : c ∈ n.text.toList) :
    isDelimiter c = false := by
  have named := QualifiedName.isNameChar_of_mem_text member
  cases given : isDelimiter c with
  | false => rfl
  | true =>
    simp only [isDelimiter, Bool.or_eq_true, beq_iff_eq] at given
    rcases given with (rfl | rfl) | rfl <;> exact absurd named (by decide)

/-! ## What is read is derived -/

theorem exists_name_of_readName {s r : List Char} {n : QualifiedName}
    (read : Reading.seen (readName s) = some (n, r)) :
    ∃ lead w trail, Blanks lead ∧ IsName w ∧ n.text.toList = w ∧ Blanks trail ∧
      s = lead ++ w ++ trail ++ r ∧ ∀ c, r.head? = some c → isDelimiter c = true := by
  rw [seen_readName] at read
  obtain ⟨k, name, equal⟩ := Option.map_eq_some_iff.1 read
  rw [Prod.mk.injEq] at equal
  obtain ⟨rfl, rfl⟩ := equal
  rw [QualifiedName.ofChars?_eq_some_iff] at name
  obtain ⟨lead, trail, before, behind, segment⟩ :=
    Text.exists_trimChars (s.takeWhile (!isDelimiter ·))
  rw [← name] at segment
  refine ⟨lead, _, trail, before, QualifiedName.isName_text k, rfl, behind, ?_, ?_⟩
  · rw [← segment, List.takeWhile_append_dropWhile]
  · intro c first
    have stopped := List.head?_dropWhile_not (!isDelimiter ·) s
    rw [first] at stopped
    simpa using stopped

theorem dropBlank_of_delimited {r : List Char}
    (ends : ∀ c, r.head? = some c → isDelimiter c = true) : dropBlank r = r := by
  cases r with
  | nil => rfl
  | cons c r =>
    refine Text.dropBlank_cons ?_ r
    cases blank : isBlank c with
    | false => rfl
    | true =>
      have closed := not_isDelimiter_of_isBlank blank
      rw [ends c rfl] at closed
      cases closed

mutual

theorem isType_of_readType {s r : List Char} {t : TypeExpr}
    (read : Reading.seen (readType s) = some (t, r)) : ∃ front, IsType front t ∧ s = front ++ r := by
  rw [seen_readType, Option.bind_eq_some_iff] at read
  obtain ⟨⟨n, behindName⟩, name, read⟩ := read
  have shorter := length_of_seen name
  obtain ⟨lead, w, trail, before, isName, spelled, behind, whole, ends⟩ :=
    exists_name_of_readName name
  dsimp only at read
  rw [dropBlank_of_delimited ends] at read
  split at read
  · rename_i inner
    obtain ⟨⟨ts, rest⟩, arguments, equal⟩ := Option.map_eq_some_iff.1 read
    rw [Prod.mk.injEq] at equal
    obtain ⟨rfl, rfl⟩ := equal
    have smaller : inner.length < s.length := by
      simp only [List.length_cons] at shorter
      omega
    obtain ⟨front, derived, rfl⟩ := isArguments_of_readArguments arguments
    refine ⟨_, .applied before isName spelled behind derived, ?_⟩
    rw [whole]
    simp
  · rw [Option.some.injEq, Prod.mk.injEq] at read
    obtain ⟨rfl, rfl⟩ := read
    exact ⟨_, .name before isName spelled behind, whole⟩
termination_by (s.length, 0)

theorem isArguments_of_readArguments {s r : List Char} {ts : List TypeExpr}
    (read : Reading.seen (readArguments s) = some (ts, r)) :
    ∃ front, IsArguments front ts ∧ s = front ++ '>' :: r := by
  rw [seen_readArguments, Option.bind_eq_some_iff] at read
  obtain ⟨⟨t, behind⟩, first, read⟩ := read
  have shorter := length_of_seen first
  have dropped := Text.length_dropBlank_le behind
  obtain ⟨front, derived, rfl⟩ := isType_of_readType first
  obtain ⟨gap, blank, split⟩ := Text.exists_dropBlank behind
  dsimp only at read
  split at read
  · rename_i more comma
    obtain ⟨⟨others, rest⟩, arguments, equal⟩ := Option.map_eq_some_iff.1 read
    rw [Prod.mk.injEq] at equal
    obtain ⟨rfl, rfl⟩ := equal
    rw [comma] at dropped split
    have smaller : more.length < (front ++ behind).length := by
      simp only [List.length_cons] at dropped
      omega
    obtain ⟨later, derivedLater, rfl⟩ := isArguments_of_readArguments arguments
    refine ⟨_, .more derived blank derivedLater, ?_⟩
    rw [split]
    simp
  · rename_i rest closed
    rw [Option.some.injEq, Prod.mk.injEq] at read
    obtain ⟨rfl, rfl⟩ := read
    refine ⟨_, .last derived blank, ?_⟩
    rw [split, closed]
    simp
  · cases read
termination_by (s.length, 1)

end

/-! ## What is derived is read -/

theorem seen_readName_padded {lead w trail rest : List Char} {n : QualifiedName}
    (before : Blanks lead) (spelled : n.text.toList = w) (behind : Blanks trail)
    (ends : ∀ c, rest.head? = some c → isDelimiter c = true) :
    Reading.seen (readName (lead ++ w ++ trail ++ rest)) = some (n, rest) := by
  have inName : ∀ c ∈ lead ++ w ++ trail, (!isDelimiter c) = true := by
    intro c member
    rw [List.mem_append, List.mem_append, ← spelled] at member
    rcases member with (inLead | inWord) | inTrail
    · rw [not_isDelimiter_of_isBlank (before c inLead)]
      rfl
    · rw [not_isDelimiter_of_mem_text inWord]
      rfl
    · rw [not_isDelimiter_of_isBlank (behind c inTrail)]
      rfl
  have stops : rest.takeWhile (!isDelimiter ·) = [] ∧ rest.dropWhile (!isDelimiter ·) = rest := by
    cases rest with
    | nil => exact ⟨rfl, rfl⟩
    | cons c rest => simp [ends c rfl]
  have solid : ∀ c ∈ w, isBlank c = false := by
    intro c member
    rw [← spelled] at member
    exact QualifiedName.isBlank_of_mem_text member
  rw [seen_readName, List.takeWhile_append_of_pos inName, stops.1,
    List.dropWhile_append_of_pos inName, stops.2, List.append_nil,
    Text.trimChars_padded before solid behind, QualifiedName.ofChars?_eq_some_iff.2 spelled]
  rfl

mutual

/-- A type is read from a text that derives it, up to blanks behind it. -/
theorem readType_of_isType {s : List Char} {t : TypeExpr} (derived : IsType s t) (rest : List Char)
    (ends : EndsType (dropBlank rest)) :
    ∃ r, Reading.seen (readType (s ++ rest)) = some (t, r) ∧ dropBlank r = dropBlank rest := by
  cases derived with
  | @name lead w trail n before _ spelled behind =>
    obtain ⟨gap, blank, split⟩ := Text.exists_dropBlank rest
    have padded : lead ++ w ++ trail ++ rest = lead ++ w ++ (trail ++ gap) ++ dropBlank rest := by
      conv_lhs => rw [split]
      simp
    have blanks : Blanks (trail ++ gap) := Text.blanks_append behind blank
    have closed : ∀ c, (dropBlank rest).head? = some c → isDelimiter c = true := by
      intro c first
      rcases ends c first with rfl | rfl <;> decide
    refine ⟨dropBlank rest, ?_, dropBlank_of_endsType ends⟩
    rw [padded, seen_readType, seen_readName_padded before spelled blanks closed, Option.bind_some]
    dsimp only
    rw [dropBlank_of_endsType ends]
    split
    · rename_i inner opened
      exact absurd (ends '<' (by rw [opened]; rfl)) (by decide)
    · rfl
  | @applied lead w trail inner n ts before _ spelled behind arguments =>
    have opened : ∀ c, ('<' :: (inner ++ '>' :: rest)).head? = some c → isDelimiter c = true := by
      intro c first
      rw [← Option.some.inj first]
      decide
    have whole : lead ++ w ++ trail ++ '<' :: inner ++ ['>'] ++ rest =
        lead ++ w ++ trail ++ '<' :: (inner ++ '>' :: rest) := by simp
    refine ⟨rest, ?_, rfl⟩
    rw [whole, seen_readType, seen_readName_padded before spelled behind opened, Option.bind_some]
    dsimp only
    simp only [Text.dropBlank_cons (show isBlank '<' = false by decide),
      readArguments_of_isArguments arguments rest, Option.map_some]

/-- Arguments are read up to the bracket that closes them. -/
theorem readArguments_of_isArguments {s : List Char} {ts : List TypeExpr}
    (derived : IsArguments s ts) (rest : List Char) :
    Reading.seen (readArguments (s ++ '>' :: rest)) = some (ts, rest) := by
  cases derived with
  | @last s gap t type blank =>
    have closed : dropBlank (gap ++ '>' :: rest) = '>' :: rest := by
      rw [Text.dropBlank_append blank, Text.dropBlank_cons (by decide)]
    have ends : EndsType (dropBlank (gap ++ '>' :: rest)) := by
      rw [closed]
      exact endsType_cons (.inr rfl) rest
    obtain ⟨r, read, behind⟩ := readType_of_isType type _ ends
    rw [List.append_assoc, seen_readArguments, read, Option.bind_some]
    dsimp only
    simp only [behind, closed]
  | @more s gap others t ts type blank later =>
    have comma : dropBlank (gap ++ ',' :: (others ++ '>' :: rest)) =
        ',' :: (others ++ '>' :: rest) := by
      rw [Text.dropBlank_append blank, Text.dropBlank_cons (by decide)]
    have ends : EndsType (dropBlank (gap ++ ',' :: (others ++ '>' :: rest))) := by
      rw [comma]
      exact endsType_cons (.inl rfl) _
    obtain ⟨r, read, behind⟩ := readType_of_isType type _ ends
    have whole : s ++ gap ++ ',' :: others ++ '>' :: rest =
        s ++ (gap ++ ',' :: (others ++ '>' :: rest)) := by simp
    rw [whole, seen_readArguments, read, Option.bind_some]
    dsimp only
    simp only [behind, comma, readArguments_of_isArguments later rest, Option.map_some]

end

/-! ## Whole texts -/

theorem ofChars?_eq_some_iff {s : List Char} {t : TypeExpr} :
    ofChars? s = some t ↔ ∃ r, Reading.seen (readType s) = some (t, r) ∧ dropBlank r = [] := by
  rw [ofChars?]
  cases read : readType s with
  | none => simp [Reading.seen]
  | some reading =>
    obtain ⟨u, r, shorter⟩ := reading
    by_cases blank : dropBlank r = []
    · simp [Reading.seen, blank]
    · simp [Reading.seen, blank]

theorem parse_eq_ok_iff {s : String} {t : TypeExpr} : parse s = .ok t ↔ ofChars? s.toList = some t := by
  rw [parse]
  cases ofChars? s.toList <;> simp

theorem parse_eq_error_iff {s : String} :
    parse s = .error (.invalidType s) ↔ ¬ ∃ t, parse s = .ok t := by
  simp only [parse_eq_ok_iff]
  rw [parse]
  cases ofChars? s.toList <;> simp

theorem isTypeText_iff {s : List Char} {t : TypeExpr} : ofChars? s = some t ↔ IsTypeText s t := by
  rw [ofChars?_eq_some_iff]
  constructor
  · rintro ⟨r, read, blank⟩
    obtain ⟨front, derived, rfl⟩ := isType_of_readType read
    exact ⟨front, r, derived, List.dropWhile_eq_nil_iff.1 blank, rfl⟩
  · rintro ⟨front, trail, derived, blanks, rfl⟩
    have blank : dropBlank trail = [] := List.dropWhile_eq_nil_iff.2 blanks
    obtain ⟨r, read, behind⟩ := readType_of_isType derived trail (blank ▸ endsType_nil)
    exact ⟨r, read, behind.trans blank⟩

/-! ## Types without arguments -/

theorem ne_nil_of_isArguments {s : List Char} {ts : List TypeExpr} (derived : IsArguments s ts) :
    ts ≠ [] := by
  cases derived <;> simp

/-- A name is read where a type without arguments is. -/
theorem parseName_eq_ok_iff {s : String} {n : QualifiedName} :
    QualifiedName.parse s = .ok n ↔ parse s = .ok (ofName n) := by
  rw [QualifiedName.parse_eq_ok_iff, parse_eq_ok_iff, isTypeText_iff, Text.trim,
    ← String.toList_inj, String.toList_ofList]
  constructor
  · intro spelled
    obtain ⟨lead, trail, before, behind, whole⟩ := Text.exists_trimChars s.toList
    have derived := IsType.name before (QualifiedName.isName_text n) rfl behind
    rw [spelled, ← whole] at derived
    exact ⟨s.toList, [], derived, Text.blanks_nil, (List.append_nil _).symm⟩
  · rintro ⟨front, gap, derived, blank, whole⟩
    cases derived with
    | applied _ _ _ _ arguments => exact absurd rfl (ne_nil_of_isArguments arguments)
    | @name lead _ trail _ before _ spelled behind =>
      have solid : ∀ c ∈ n.text.toList, isBlank c = false := fun _ =>
        QualifiedName.isBlank_of_mem_text
      rw [whole, ← spelled, List.append_assoc,
        Text.trimChars_padded before solid (Text.blanks_append behind blank)]

/-- Reading a type recognises the grammar. It gives a tree exactly if the grammar derives the text
with that tree, and refuses every other text with the whole of it; the names of the grammar are the
texts of names; and a name is read from exactly the texts of types without arguments. -/
theorem parse_recognises_types (s : String) :
    (∀ t, parse s = .ok t ↔ IsTypeText s.toList t) ∧
      (parse s = .error (.invalidType s) ↔ ¬ ∃ t, IsTypeText s.toList t) ∧
      (∀ w, IsName w ↔ ∃ n : QualifiedName, n.text.toList = w) ∧
      ∀ t, ofName <$> QualifiedName.parse s = .ok t ↔ parse s = .ok t ∧ t.arguments = [] := by
  have accepted : ∀ t, parse s = .ok t ↔ IsTypeText s.toList t := fun t =>
    parse_eq_ok_iff.trans isTypeText_iff
  refine ⟨accepted, ?_, fun w => QualifiedName.isName_iff, ?_⟩
  · rw [parse_eq_error_iff]
    simp only [accepted]
  · intro t
    constructor
    · intro read
      cases name : QualifiedName.parse s with
      | error e =>
        rw [name] at read
        cases read
      | ok n =>
        rw [name] at read
        obtain rfl := Except.ok.inj read
        exact ⟨parseName_eq_ok_iff.1 name, rfl⟩
    · rintro ⟨read, plain⟩
      obtain ⟨n, ts⟩ := t
      obtain rfl : ts = [] := plain
      rw [parseName_eq_ok_iff.2 read]
      rfl

example : parse "a.B<>" = .error (.invalidType "a.B<>") := by cbv

end TypeExpr

end RecordSynth
