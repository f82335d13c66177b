import RecordSynth.Proofs.TypeExpr.Grammar
import RecordSynth.Proofs.TypeExpr.Place
/-!
# Reading at a cursor

The reader that stands at a byte of its text and moves does what the reader of the library does, on
every text. Each reading comes to an end. The text is cut only where a character starts or the text
ends, and the cursor never moves back. A type within a type is read from further on, so there are no
more calls than one and one for each opening bracket and comma.
-/

namespace RecordSynth

namespace TypeExpr

open Text (dropBlank)

/-! ## Names in front of a delimiter -/

/-- A search gives the bytes in front of what it finds. -/
theorem findByte?_getD (p : Char → Bool) (s : List Char) :
    (Scan.findByte? p s).getD (String.utf8Len s) = String.utf8Len (s.takeWhile (!p ·)) := by
  induction s with
  | nil => rfl
  | cons c s ih =>
    cases found : p c with
    | true => simp [Scan.findByte?, found]
    | false =>
      rw [List.takeWhile_cons_of_pos (by simp [found]), String.utf8Len_cons, String.utf8Len_cons,
        ← ih]
      cases rest : Scan.findByte? p s <;> simp [Scan.findByte?, found, rest, Nat.add_comm]

/-- Blanks in front of a name make no difference. -/
theorem seen_readName_dropBlank (s : List Char) :
    Reading.seen (readName (dropBlank s)) = Reading.seen (readName s) := by
  obtain ⟨lead, blank, whole⟩ := Text.exists_dropBlank s
  have inName : ∀ c ∈ lead, (!isDelimiter c) = true := by
    intro c member
    rw [not_isDelimiter_of_isBlank (blank c member)]
    rfl
  have trimmed := Text.trimChars_append blank Text.blanks_nil
    ((dropBlank s).takeWhile (!isDelimiter ·))
  rw [List.append_nil] at trimmed
  rw [seen_readName, seen_readName]
  conv_rhs => rw [whole]
  rw [List.takeWhile_append_of_pos inName, List.dropWhile_append_of_pos inName, trimmed]

/-! ## Readings from a place -/

/-- What a reading comes to: what was seen in front of the rest of a text, or the refusal of the
text. -/
def outcome {α : Type} (text : String) : Option (α × List Char) → Except Fault α
  | some (a, _) => .ok a
  | none => .error (.refused (.invalidType text))

variable {text : String} {α : Type}

/-- From `p` a reading has led to `q`, with enough brackets and commas for its calls. If something
is seen in the text of `p`, then `q` stands behind it, and the turns of loops that have not come to
their end are among those of `left`. -/
structure Reaches (p : Place text) (seen : Option (α × List Char)) (left : Nat → Prop)
    (q : Place text) : Prop where
  behind : q.rest <:+ p.rest
  within : q.Within
  read : ∀ a r, seen = some (a, r) → q.rest = r ∧ ∀ start, OpenTurn q.events start → left start

theorem Reaches.after {p q r : Place text} {seen : Option (α × List Char)} {left left' : Nat → Prop}
    (later : Reaches q seen left r) (behind : q.rest <:+ p.rest)
    (fewer : ∀ start, left start → left' start) : Reaches p seen left' r := by
  refine ⟨later.behind.trans behind, later.within, fun a s given => ?_⟩
  obtain ⟨there, opened⟩ := later.read a s given
  exact ⟨there, fun start begun => fewer start (opened start begun)⟩

theorem Reaches.of_none {p q : Place text} {left : Nat → Prop} (behind : q.rest <:+ p.rest)
    (within : q.Within) : Reaches p (none : Option (α × List Char)) left q :=
  ⟨behind, within, fun _ _ given => by cases given⟩

theorem Reaches.of_some {p q : Place text} {a : α} {r : List Char} {left : Nat → Prop}
    (behind : q.rest <:+ p.rest) (within : q.Within) (there : q.rest = r)
    (opened : ∀ start, OpenTurn q.events start → left start) :
    Reaches p (some (a, r)) left q := by
  refine ⟨behind, within, fun b s given => ?_⟩
  rw [Option.some.injEq, Prod.mk.injEq] at given
  exact ⟨there.trans given.2, opened⟩

theorem comesTo_takeName {part : String} (stop : Nat) {c : Cursor}
    (named : QualifiedName.ofChars? (Text.trimChars part.toList) = none) :
    ComesTo (Scan.takeName text part stop) c (.error (.refused (.invalidType text))) c := by
  rw [Scan.takeName, QualifiedName.parse, named]
  exact comesTo_refuse text c

theorem passes_takeName {part : String} {stop : Nat} {n : QualifiedName} {p q : Place text}
    {rest : List Char}
    (named : QualifiedName.ofChars? (Text.trimChars part.toList) = some n)
    (moved : Passes (Scan.moveTo (p.pos + stop)) p () rest q) :
    Passes (Scan.takeName text part stop) p n rest q := by
  rw [Scan.takeName, QualifiedName.parse, named]
  exact (passes_position p).bind (moved.bind_pure n)

/-- The name at a place is read as from the text of the place. -/
theorem exists_name (p : Place text) (within : p.Within) :
    ∃ q, ComesTo (Scan.name text) p.cursor (outcome text (Reading.seen (readName p.rest)))
        q.cursor ∧
      Reaches p (Reading.seen (readName p.rest)) (OpenTurn p.events) q := by
  obtain ⟨a, skipped⟩ := exists_skipBlank p
  obtain ⟨b, cut⟩ := exists_sliceFrom a
  have parts : a.rest = a.rest.takeWhile (!isDelimiter ·) ++ a.rest.dropWhile (!isDelimiter ·) :=
    List.takeWhile_append_dropWhile.symm
  generalize taken : a.rest.takeWhile (!isDelimiter ·) = front at parts
  generalize left : a.rest.dropWhile (!isDelimiter ·) = back at parts
  obtain ⟨d, cutName⟩ := exists_sliceTo b front back
  have quiet := (skipped.quiet.trans cut.quiet).trans cutName.quiet
  have upToName {r : Except Fault QualifiedName} {c : Cursor}
      (comes : ComesTo (Scan.takeName text (String.ofList front) (String.utf8Len front)) d.cursor
        r c) :
      ComesTo (Scan.name text) p.cursor r c := by
    refine skipped.comes.bind ((comesTo_position _).bind (cut.comes.bind ?_))
    dsimp only
    rw [String.toList_ofList, String.utf8ByteSize_ofList, findByte?_getD, taken, parts]
    exact cutName.comes.bind comes
  rw [← seen_readName_dropBlank, ← skipped.rest_eq, seen_readName, taken, left]
  have part : (String.ofList front).toList = front := String.toList_ofList
  cases named : QualifiedName.ofChars? (Text.trimChars front) with
  | none =>
    rw [← part] at named
    exact ⟨d, upToName (comesTo_takeName _ named), .of_none quiet.behind (within.of_quiet quiet)⟩
  | some n =>
    rw [← part] at named
    obtain ⟨q, moved⟩ := exists_moveOver d (cutName.rest_eq.trans (cut.rest_eq.trans parts))
    have quiet' := quiet.trans moved.quiet
    exact ⟨q, upToName (passes_takeName named moved).comes,
      .of_some quiet'.behind (within.of_quiet quiet') moved.rest_eq quiet'.opened⟩

/-- A turn ends behind its argument: it is open no more. -/
theorem exists_turn {p a d : Place text} (behind : a.rest <:+ p.rest)
    (shorter : a.rest.length < p.rest.length)
    (left : ∀ start, OpenTurn a.events start → OpenTurn p.events start ∨ start = p.pos)
    (quiet : a.Quiet d) :
    ∃ q, Passes (Scan.observe (.turn p.pos d.pos)) d () d.rest q ∧
      ∀ start, OpenTurn q.events start → OpenTurn p.events start := by
  have further : (Event.turn p.pos d.pos).Sound :=
    Place.pos_lt (quiet.behind.trans behind) (quiet.behind.length_le.trans_lt shorter)
  refine ⟨d.observe _ further rfl, passes_observe d further rfl, fun start opened => ?_⟩
  refine (left start (quiet.opened start (openTurn_of_concat rfl opened))).resolve_right ?_
  rintro rfl
  exact not_openTurn_of_concat_turn opened

theorem foldl_apply (ts : List TypeExpr) (t : TypeExpr) :
    ts.foldl apply t = ⟨t.name, t.arguments ++ ts⟩ := by
  induction ts generalizing t with
  | nil =>
    cases t
    simp
  | cons u ts ih => simp [ih, apply]

/- Both by recursion on the length of the text in front of the cursor: arguments are read behind a
bracket that was taken, further arguments behind a comma. What carries it is the account of calls:
a place is ready for a call (`Place.Ready`) only behind one of these. The place that is reached does
not depend on the fuel, if that lasts for two levels of calls with each bracket and comma ahead. -/
mutual

/-- The type at a place is read as from the text of the place. -/
theorem exists_type (caller : Option Nat) (p : Place text) (ready : p.Ready)
    (inside : (Event.call caller p.pos).Sound) :
    ∃ q, (∀ fuel, 2 * marks p.rest < fuel → ComesTo (Scan.type text fuel caller) p.cursor
        (outcome text (Reading.seen (readType p.rest))) q.cursor) ∧
      Reaches p (Reading.seen (readType p.rest))
        (fun start => OpenTurn p.events start ∨ start = p.pos) q := by
  have called := comesTo_enter p inside ready.1
  obtain ⟨a, named, reached⟩ :=
    exists_name (p.enter caller inside ready.1) (Place.within_enter ready)
  rw [show (p.enter caller inside ready.1).rest = p.rest from rfl] at named reached
  rw [seen_readType]
  cases name : Reading.seen (readName p.rest) with
  | none =>
    rw [name] at named
    refine ⟨a, fun fuel enough => ?_, .of_none reached.behind reached.within⟩
    obtain ⟨fuel, rfl⟩ := Nat.exists_eq_succ_of_ne_zero (Nat.ne_zero_of_lt enough)
    exact (comesTo_position _).bind (called.bind (named.bind_error _))
  | some found =>
    obtain ⟨n, r⟩ := found
    rw [name] at named
    obtain ⟨rfl, opened⟩ := reached.read n r name
    have shorter := length_of_seen name
    have left : ∀ start, OpenTurn a.events start → OpenTurn p.events start ∨ start = p.pos :=
      fun start begun => openTurn_of_concat_call (opened start begun)
    rw [Option.bind_some]
    dsimp only
    split
    · rename_i inner bracket
      obtain ⟨b, eaten⟩ := exists_eat a bracket
      have behind : b.rest <:+ p.rest := eaten.quiet.behind.trans reached.behind
      have smaller : b.rest.length < p.rest.length :=
        eaten.quiet.behind.length_le.trans_lt shorter
      rw [← eaten.rest_eq] at bracket ⊢
      have fewer : marks b.rest < marks p.rest :=
        (marks_lt (.inl rfl) bracket).trans_le (marks_le reached.behind)
      obtain ⟨q, arguments, later⟩ := exists_arguments p.pos (ofName n) b
        (reached.within.ready eaten.quiet (.inl rfl) bracket) (Place.pos_lt behind smaller)
      simp only [foldl_apply] at arguments later
      refine ⟨q, fun fuel enough => ?_, later.after behind fun start begun =>
        left start (eaten.quiet.opened start begun)⟩
      obtain ⟨fuel, rfl⟩ := Nat.exists_eq_succ_of_ne_zero (Nat.ne_zero_of_lt enough)
      exact (comesTo_position _).bind (called.bind (named.bind
        (eaten.comes.bind (arguments fuel (by omega)))))
    · rename_i other
      obtain ⟨q, uneaten⟩ := exists_eat_of_ne a other
      refine ⟨q, fun fuel enough => ?_, .of_some (uneaten.quiet.behind.trans reached.behind)
        (reached.within.of_quiet uneaten.quiet) uneaten.rest_eq fun start begun =>
          left start (uneaten.quiet.opened start begun)⟩
      obtain ⟨fuel, rfl⟩ := Nat.exists_eq_succ_of_ne_zero (Nat.ne_zero_of_lt enough)
      exact (comesTo_position _).bind
        (called.bind (named.bind (uneaten.comes.bind (.done (ofName n) _))))
termination_by (p.rest.length, 0)

/-- Arguments at a place are read as from the text of the place, and `t` is applied to each. -/
theorem exists_arguments (caller : Nat) (t : TypeExpr) (p : Place text) (ready : p.Ready)
    (inside : caller < p.pos) :
    ∃ q, (∀ fuel, 2 * marks p.rest + 1 < fuel → ComesTo (Scan.arguments text fuel caller t) p.cursor
        (outcome text ((Reading.seen (readArguments p.rest)).map fun x =>
          (x.1.foldl apply t, x.2))) q.cursor) ∧
      Reaches p ((Reading.seen (readArguments p.rest)).map fun x => (x.1.foldl apply t, x.2))
        (OpenTurn p.events) q := by
  obtain ⟨a, typed, reached⟩ := exists_type (some caller) p ready fun pos same => by
    rwa [← Option.some.inj same]
  rw [seen_readArguments]
  cases first : Reading.seen (readType p.rest) with
  | none =>
    rw [first] at typed
    refine ⟨a, fun fuel enough => ?_, .of_none reached.behind reached.within⟩
    obtain ⟨fuel, rfl⟩ := Nat.exists_eq_succ_of_ne_zero (Nat.ne_zero_of_lt enough)
    exact (comesTo_position _).bind ((typed fuel (by omega)).bind_error _)
  | some found =>
    obtain ⟨u, r⟩ := found
    rw [first] at typed
    obtain ⟨rfl, left⟩ := reached.read u r first
    have shorter := length_of_seen first
    rw [Option.bind_some]
    dsimp only
    split
    · rename_i more comma
      obtain ⟨b, eaten⟩ := exists_eat a comma
      obtain ⟨d, turned, leftD⟩ := exists_turn reached.behind shorter left eaten.quiet
      have quiet := eaten.quiet.trans turned.quiet
      have behind : d.rest <:+ p.rest := quiet.behind.trans reached.behind
      have smaller : d.rest.length < p.rest.length := quiet.behind.length_le.trans_lt shorter
      rw [← eaten.rest_eq, ← turned.rest_eq] at comma ⊢
      have fewer : marks d.rest < marks p.rest :=
        (marks_lt (.inr rfl) comma).trans_le (marks_le reached.behind)
      obtain ⟨q, others, later⟩ := exists_arguments caller (t.apply u) d
        (reached.within.ready quiet (.inr rfl) comma) (inside.trans (Place.pos_lt behind smaller))
      rw [Option.map_map]
      refine ⟨q, fun fuel enough => ?_, later.after behind leftD⟩
      obtain ⟨fuel, rfl⟩ := Nat.exists_eq_succ_of_ne_zero (Nat.ne_zero_of_lt enough)
      exact (comesTo_position _).bind ((typed fuel (by omega)).bind (eaten.comes.bind
        ((comesTo_position _).bind (turned.comes.bind (others fuel (by omega))))))
    · rename_i rest bracket
      obtain ⟨b, uneaten⟩ := exists_eat_of_ne (c := ',') a (by simp [bracket])
      have closing : dropBlank b.rest = '>' :: rest := by
        rw [uneaten.rest_eq, Text.dropBlank_dropBlank, bracket]
      obtain ⟨d, eaten⟩ := exists_eat b closing
      obtain ⟨q, turned, leftQ⟩ :=
        exists_turn reached.behind shorter left (uneaten.quiet.trans eaten.quiet)
      have quiet := (uneaten.quiet.trans eaten.quiet).trans turned.quiet
      refine ⟨q, fun fuel enough => ?_, .of_some (quiet.behind.trans reached.behind)
        (reached.within.of_quiet quiet) (turned.rest_eq.trans eaten.rest_eq) leftQ⟩
      obtain ⟨fuel, rfl⟩ := Nat.exists_eq_succ_of_ne_zero (Nat.ne_zero_of_lt enough)
      exact (comesTo_position _).bind ((typed fuel (by omega)).bind (uneaten.comes.bind
        (eaten.comes.bind ((comesTo_position _).bind (turned.bind_pure (t.apply u)).comes))))
    · rename_i noComma noBracket
      obtain ⟨b, uneaten⟩ := exists_eat_of_ne a noComma
      obtain ⟨d, uneaten'⟩ := exists_eat_of_ne (c := '>') b (by
        rw [uneaten.rest_eq, Text.dropBlank_dropBlank]
        exact noBracket)
      obtain ⟨q, turned, leftQ⟩ :=
        exists_turn reached.behind shorter left (uneaten.quiet.trans uneaten'.quiet)
      have quiet := (uneaten.quiet.trans uneaten'.quiet).trans turned.quiet
      refine ⟨q, fun fuel enough => ?_,
        .of_none (quiet.behind.trans reached.behind) (reached.within.of_quiet quiet)⟩
      obtain ⟨fuel, rfl⟩ := Nat.exists_eq_succ_of_ne_zero (Nat.ne_zero_of_lt enough)
      exact (comesTo_position _).bind ((typed fuel (by omega)).bind (uneaten.comes.bind
        (uneaten'.comes.bind ((comesTo_position _).bind
          (turned.comes.bind (comesTo_refuse text _))))))
termination_by (p.rest.length, 1)

end

/-! ## Whole texts -/

theorem parse_eq_of_seen_none {s : String} (unread : Reading.seen (readType s.toList) = none) :
    parse s = .error (.invalidType s) := by
  rw [parse_eq_error_iff]
  rintro ⟨t, read⟩
  rw [parse_eq_ok_iff, ofChars?_eq_some_iff] at read
  obtain ⟨r, seen, -⟩ := read
  rw [unread] at seen
  cases seen

theorem parse_eq_of_seen {s : String} {t : TypeExpr} {r : List Char}
    (read : Reading.seen (readType s.toList) = some (t, r)) :
    parse s = if dropBlank r = [] then .ok t else .error (.invalidType s) := by
  split
  · rename_i nothing
    rw [parse_eq_ok_iff, ofChars?_eq_some_iff]
    exact ⟨r, read, nothing⟩
  · rename_i more
    rw [parse_eq_error_iff]
    rintro ⟨u, other⟩
    rw [parse_eq_ok_iff, ofChars?_eq_some_iff, read] at other
    obtain ⟨r', same, nothing⟩ := other
    rw [Option.some.injEq, Prod.mk.injEq] at same
    rw [← same.2] at nothing
    exact more nothing

/-- A reading comes to an end, and to what the reader of the library comes to. -/
theorem exists_whole (text : String) :
    ∃ q : Place text, (∀ fuel, 2 * marks text.toList < fuel →
        ComesTo (Scan.whole text fuel) {} ((parse text).mapError .refused) q.cursor) ∧
      q.Within ∧ ∀ t, parse text = .ok t → ∀ start, ¬ OpenTurn q.events start := by
  rw [← Place.cursor_start text]
  obtain ⟨a, typed, reached⟩ := exists_type none (Place.start text) (Place.ready_start text)
    fun _ absent => by cases absent
  rw [show (Place.start text).rest = text.toList from rfl] at typed reached
  cases seen : Reading.seen (readType text.toList) with
  | none =>
    rw [seen] at typed
    rw [parse_eq_of_seen_none seen]
    exact ⟨a, fun fuel enough => (typed fuel enough).bind_error _, reached.within,
      fun _ given => by cases given⟩
  | some found =>
    obtain ⟨t, r⟩ := found
    rw [seen] at typed
    obtain ⟨rfl, left⟩ := reached.read t r seen
    obtain ⟨q, skipped⟩ := exists_skipBlank a
    rw [parse_eq_of_seen seen, ← skipped.rest_eq]
    refine ⟨q, fun fuel enough => ?_, reached.within.of_quiet skipped.quiet,
      fun _ _ start begun => ?_⟩
    · refine (typed fuel enough).bind (skipped.comes.bind ((comesTo_position _).bind ?_))
      rw [show q.cursor.pos = q.pos from rfl]
      simp only [q.pos_eq_size_iff]
      split
      · exact .done t _
      · exact comesTo_refuse text _
    · rcases left start (skipped.quiet.opened start begun) with before | rfl
      · obtain ⟨⟨caller, called⟩, -⟩ := before
        cases called
      · -- no call within a call starts at the first byte
        obtain ⟨⟨caller, called⟩, -⟩ := begun
        have inside : caller < (Place.start text).pos := q.sound _ called caller rfl
        rw [show (Place.start text).pos = 0 from congrArg Cursor.pos (Place.cursor_start text)]
          at inside
        exact absurd inside (Nat.not_lt_zero _)

/-- Reading a type at a cursor is safe on every text, accepted or not. The reading comes to an end,
with the same cursor however much fuel there is, and gives what the reader of the library gives, so
no cut has failed; for all that is cut is cut where a character starts or the text ends, and that is
also where the cursor is left. The cursor never moves back. A call within a call starts further on
than that one, and any call starts further on than those before it. Each turn of the loop over
arguments takes at least a byte, but for turns that the refusal of the text cuts short. So there are
no more calls than one and one for each opening bracket and comma. -/
theorem scan_keepsCursorValid (text : String) :
    ∃ cursor : Cursor,
      (∀ fuel, 2 * (text.toList.count '<' + text.toList.count ',') < fuel →
        scan fuel text = ((parse text).mapError .refused, cursor)) ∧
      (∀ event ∈ cursor.events, event.Sound) ∧
      String.Pos.Raw.IsValid text ⟨cursor.pos⟩ ∧
      (calls cursor.events).Pairwise (· < ·) ∧
      (∀ caller start, .call (some caller) start ∈ cursor.events →
        (∃ stop, start < stop ∧ .turn start stop ∈ cursor.events) ∨
          parse text = .error (.invalidType text)) ∧
      (calls cursor.events).length ≤ 1 + (text.toList.count '<' + text.toList.count ',') := by
  obtain ⟨q, comes, within, ended⟩ := exists_whole text
  obtain ⟨front, parts, here⟩ := q.exists_front
  obtain ⟨valid, -⟩ := exists_splits parts here
  refine ⟨q.cursor, comes, q.sound, valid, q.ascending, fun caller start called => ?_, ?_⟩
  · by_cases turned : ∃ stop, Event.turn start stop ∈ q.events
    · obtain ⟨stop, turned⟩ := turned
      exact .inl ⟨stop, q.sound _ turned, turned⟩
    · refine .inr ?_
      rw [parse_eq_error_iff]
      rintro ⟨t, read⟩
      exact ended t read start ⟨⟨caller, called⟩, not_exists.1 turned⟩
  · have enough : (calls q.events).length + marks q.rest ≤
        text.toList.count '<' + text.toList.count ',' + 1 := within
    show (calls q.events).length ≤ _
    omega

example : (scan 1 "é").2.events =
    [.call none 0, .slice "é" 0, .move 0 0, .slice "é" 0, .slice "é" 2] := by cbv
example : calls (scan 5 "a<b, >").2.events = [0, 2, 4] := by cbv

end TypeExpr

end RecordSynth
