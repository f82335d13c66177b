import RecordSynth.Proofs.ComesTo
import RecordSynth.Proofs.Text
import RecordSynth.TypeExpr.Cursor
/-!
# Places of the cursor in a text

A place is a cursor that stands where a character of the text starts or where the text ends, with a
past in which all was well. From a place a text can be cut, the blanks there are passed over, and a
character is taken if it is the next one; each of these leads to a place again. A call needs a
bracket or a comma in front of it, and places keep the account of both.
-/

namespace RecordSynth

namespace TypeExpr

open Text (dropBlank)

/-! ## Events -/

/-- What has to hold of an event: a text is cut where a character starts or the text ends, the
cursor does not move back, a call is further on than the call that makes it, and a turn takes at
least a byte. -/
def Event.Sound : Event → Prop
  | .slice whole pos => String.Pos.Raw.IsValid whole ⟨pos⟩
  | .move old new => old ≤ new
  | .call caller start => ∀ pos, caller = some pos → pos < start
  | .turn start stop => start < stop

/-- Where a call starts. -/
def Event.start? : Event → Option Nat
  | .call _ start => some start
  | _ => none

/-- Where the calls start, first call first. -/
def calls (events : List Event) : List Nat := events.filterMap Event.start?

/-- A turn of the loop over arguments has been begun at `start` and has not come to its end. -/
def OpenTurn (events : List Event) (start : Nat) : Prop :=
  (∃ caller, Event.call (some caller) start ∈ events) ∧ ∀ stop, Event.turn start stop ∉ events

theorem sound_concat {events : List Event} {event : Event} (past : ∀ e ∈ events, e.Sound)
    (now : event.Sound) : ∀ e ∈ events ++ [event], e.Sound :=
  List.forall_mem_append.2 ⟨past, List.forall_mem_singleton.2 now⟩

theorem calls_concat_of_plain {event : Event} (plain : event.start? = none) (events : List Event) :
    calls (events ++ [event]) = calls events := by
  simp [calls, plain]

theorem calls_concat_call (caller : Option Nat) (start : Nat) (events : List Event) :
    calls (events ++ [.call caller start]) = calls events ++ [start] := by
  simp [calls, Event.start?]

/-- What is no call begins no turn. -/
theorem openTurn_of_concat {event : Event} (plain : event.start? = none) {events : List Event}
    {start : Nat} (opened : OpenTurn (events ++ [event]) start) : OpenTurn events start := by
  obtain ⟨⟨caller, called⟩, unended⟩ := opened
  refine ⟨⟨caller, ?_⟩, fun stop ended => unended stop (List.mem_append_left _ ended)⟩
  rcases List.mem_append.1 called with before | now
  · exact before
  · rw [← List.mem_singleton.1 now] at plain
    cases plain

/-- A call begins at most the turn that it is made in. -/
theorem openTurn_of_concat_call {caller : Option Nat} {pos : Nat} {events : List Event}
    {start : Nat} (opened : OpenTurn (events ++ [.call caller pos]) start) :
    OpenTurn events start ∨ start = pos := by
  obtain ⟨⟨caller', called⟩, unended⟩ := opened
  rcases List.mem_append.1 called with before | now
  · exact .inl ⟨⟨caller', before⟩, fun stop ended => unended stop (List.mem_append_left _ ended)⟩
  · have same := List.mem_singleton.1 now
    rw [Event.call.injEq] at same
    exact .inr same.2

theorem not_openTurn_of_concat_turn {start stop : Nat} {events : List Event} :
    ¬ OpenTurn (events ++ [.turn start stop]) start :=
  fun opened => opened.2 stop (by simp)

/-! ## Places -/

/-- The text from the cursor on, and what has happened. -/
structure Place (text : String) where
  rest : List Char
  events : List Event
  suffix : rest <:+ text.toList
  sound : ∀ event ∈ events, event.Sound
  ascending : (calls events).Pairwise (· < ·)
  reached : ∀ start ∈ calls events, start ≤ text.utf8ByteSize - String.utf8Len rest

/-- The number of opening brackets and commas. -/
def marks (s : List Char) : Nat := s.count '<' + s.count ','

theorem marks_le {r s : List Char} (behind : r <:+ s) : marks r ≤ marks s :=
  Nat.add_le_add (behind.sublist.count_le _) (behind.sublist.count_le _)

/-- A bracket or a comma that is taken counts no more. -/
theorem marks_lt {r s : List Char} {c : Char} (mark : c = '<' ∨ c = ',')
    (found : dropBlank s = c :: r) : marks r < marks s := by
  have fewer : marks (dropBlank s) ≤ marks s := marks_le (List.dropWhile_suffix _)
  have one : marks (c :: r) = marks r + 1 := by
    rcases mark with rfl | rfl <;> simp [marks] <;> omega
  rw [found] at fewer
  omega

theorem utf8Len_lt {r s : List Char} (behind : r <:+ s) (shorter : r.length < s.length) :
    String.utf8Len r < String.utf8Len s := by
  obtain ⟨front, rfl⟩ := behind
  have given : String.utf8Len front ≠ 0 := by
    rw [Ne, String.utf8Len_eq_zero]
    rintro rfl
    simp at shorter
  rw [String.utf8Len_append]
  omega

variable {text : String}

namespace Place

/-- The byte of a place. -/
def pos (p : Place text) : Nat := text.utf8ByteSize - String.utf8Len p.rest

/-- The cursor of a place. -/
def cursor (p : Place text) : Cursor := ⟨p.pos, p.events⟩

theorem pos_add (p : Place text) : p.pos + String.utf8Len p.rest = text.utf8ByteSize := by
  have shorter := String.utf8Len_le_of_suffix p.suffix
  rw [String.utf8Len_toList] at shorter
  simp only [pos]
  omega

theorem pos_lt {p q : Place text} (behind : q.rest <:+ p.rest)
    (shorter : q.rest.length < p.rest.length) : p.pos < q.pos := by
  have less := utf8Len_lt behind shorter
  have whole := p.pos_add
  have whole' := q.pos_add
  omega

theorem pos_eq_size_iff (p : Place text) : p.pos = text.utf8ByteSize ↔ p.rest = [] := by
  rw [← String.utf8Len_eq_zero, ← p.pos_add]
  omega

theorem exists_front (p : Place text) :
    ∃ front, text = String.ofList (front ++ p.rest) ∧ p.pos = String.utf8Len front := by
  obtain ⟨front, whole⟩ := p.suffix
  have size := p.pos_add
  rw [← String.utf8Len_toList, ← whole, String.utf8Len_append] at size
  exact ⟨front, by rw [whole, String.ofList_toList], by omega⟩

/-- Where a reading starts. -/
def start (text : String) : Place text where
  rest := text.toList
  events := []
  suffix := List.suffix_rfl
  sound := List.forall_mem_nil _
  ascending := List.Pairwise.nil
  reached := List.forall_mem_nil _

theorem cursor_start (text : String) : (start text).cursor = {} := by
  simp [cursor, pos, start, String.utf8Len_toList]

/-- The place after an event that is no call. -/
def observe (p : Place text) (event : Event) (sound : event.Sound) (plain : event.start? = none) :
    Place text where
  rest := p.rest
  events := p.events ++ [event]
  suffix := p.suffix
  sound := sound_concat p.sound sound
  ascending := by
    rw [calls_concat_of_plain plain]
    exact p.ascending
  reached := by
    rw [calls_concat_of_plain plain]
    exact p.reached

/-- The place further on. -/
def move (p : Place text) (rest : List Char) (behind : rest <:+ p.rest) : Place text :=
  let event := Event.move p.pos (text.utf8ByteSize - String.utf8Len rest)
  have forward : event.Sound := Nat.sub_le_sub_left (String.utf8Len_le_of_suffix behind) _
  { rest
    events := p.events ++ [event]
    suffix := behind.trans p.suffix
    sound := sound_concat p.sound forward
    ascending := by
      rw [calls_concat_of_plain rfl]
      exact p.ascending
    reached := by
      rw [calls_concat_of_plain rfl]
      exact fun start called => (p.reached start called).trans forward }

/-- The place after a call. -/
def enter (p : Place text) (caller : Option Nat) (inside : (Event.call caller p.pos).Sound)
    (later : ∀ start ∈ calls p.events, start < p.pos) : Place text where
  rest := p.rest
  events := p.events ++ [.call caller p.pos]
  suffix := p.suffix
  sound := sound_concat p.sound inside
  ascending := by
    rw [calls_concat_call, List.pairwise_append]
    refine ⟨p.ascending, List.pairwise_singleton _ _, fun start called here same => ?_⟩
    rw [List.mem_singleton.1 same]
    exact later start called
  reached := by
    rw [calls_concat_call]
    exact List.forall_mem_append.2 ⟨p.reached, List.forall_mem_singleton.2 le_rfl⟩

/-! ### Ways without calls -/

/-- From `p` to `q` nothing was called and the cursor went no way but forward. -/
structure Quiet (p q : Place text) : Prop where
  behind : q.rest <:+ p.rest
  calls_eq : calls q.events = calls p.events
  opened : ∀ start, OpenTurn q.events start → OpenTurn p.events start

theorem Quiet.refl (p : Place text) : p.Quiet p := ⟨List.suffix_rfl, rfl, fun _ => id⟩

theorem Quiet.trans {p q r : Place text} (first : p.Quiet q) (second : q.Quiet r) : p.Quiet r :=
  ⟨second.behind.trans first.behind, second.calls_eq.trans first.calls_eq,
    fun start opened => first.opened start (second.opened start opened)⟩

theorem quiet_observe (p : Place text) {event : Event} (sound : event.Sound)
    (plain : event.start? = none) : p.Quiet (p.observe event sound plain) :=
  ⟨List.suffix_rfl, calls_concat_of_plain plain _, fun _ => openTurn_of_concat plain⟩

theorem quiet_move (p : Place text) {rest : List Char} (behind : rest <:+ p.rest) :
    p.Quiet (p.move rest behind) :=
  ⟨behind, calls_concat_of_plain rfl _, fun _ => openTurn_of_concat rfl⟩

/-! ### The account of calls -/

/-- There was a bracket or a comma for each call but one. -/
def Within (p : Place text) : Prop :=
  (calls p.events).length + marks p.rest ≤ marks text.toList + 1

/-- The place is further on than all calls, and there was a bracket or a comma for each of them. -/
def Ready (p : Place text) : Prop :=
  (∀ start ∈ calls p.events, start < p.pos) ∧
    (calls p.events).length + marks p.rest ≤ marks text.toList

theorem ready_start (text : String) : (start text).Ready := by
  refine ⟨List.forall_mem_nil _, ?_⟩
  simp [start, calls]

theorem within_enter {p : Place text} {caller : Option Nat}
    {inside : (Event.call caller p.pos).Sound} (ready : p.Ready) :
    (p.enter caller inside ready.1).Within := by
  have given := ready.2
  simp only [Within, enter, calls_concat_call, List.length_append, List.length_singleton]
  omega

theorem Within.of_quiet {p q : Place text} (within : p.Within) (quiet : p.Quiet q) : q.Within := by
  have fewer := marks_le quiet.behind
  simp only [Within, quiet.calls_eq] at within ⊢
  omega

/-- Behind a bracket or a comma there may be a call again. -/
theorem Within.ready {p q : Place text} (within : p.Within) (quiet : p.Quiet q) {c : Char}
    (mark : c = '<' ∨ c = ',') (found : dropBlank p.rest = c :: q.rest) : q.Ready := by
  have fewer := marks_lt mark found
  have shorter := Text.length_dropBlank_le p.rest
  rw [found, List.length_cons] at shorter
  have further : p.pos < q.pos := pos_lt quiet.behind shorter
  simp only [Ready, Within, quiet.calls_eq] at within ⊢
  exact ⟨fun start called => (p.reached start called).trans_lt further, by omega⟩

end Place

/-! ## Single steps -/

theorem comesTo_refuse {α : Type} (text : String) (c : Cursor) :
    ComesTo (Scan.refuse text : Scan α) c (.error (.refused (.invalidType text))) c :=
  .given _ c

theorem comesTo_position (c : Cursor) : ComesTo Scan.position c (.ok c.pos) c := rfl

theorem comesTo_enter (p : Place text) {caller : Option Nat}
    (inside : (Event.call caller p.pos).Sound) (later : ∀ start ∈ calls p.events, start < p.pos) :
    ComesTo (Scan.observe (.call caller p.pos)) p.cursor (.ok ())
      (p.enter caller inside later).cursor := rfl

/-! ## Ways from place to place -/

section

variable {α β : Type}

/-- From `p` the reading gives `a` without a call and ends at `q`, in front of `rest`. -/
structure Passes (m : Scan α) (p : Place text) (a : α) (rest : List Char) (q : Place text) :
    Prop where
  comes : ComesTo m p.cursor (.ok a) q.cursor
  quiet : p.Quiet q
  rest_eq : q.rest = rest

theorem Passes.bind {m : Scan α} {f : α → Scan β} {a : α} {b : β} {p q r : Place text}
    {s s' : List Char} (first : Passes m p a s q) (second : Passes (f a) q b s' r) :
    Passes (m >>= f) p b s' r :=
  ⟨first.comes.bind second.comes, first.quiet.trans second.quiet, second.rest_eq⟩

theorem Passes.bind_pure {m : Scan α} {a : α} {p q : Place text} {s : List Char}
    (first : Passes m p a s q) (b : β) : Passes (m >>= fun _ => pure b) p b s q :=
  ⟨first.comes.bind (.done b _), first.quiet, first.rest_eq⟩

end

theorem passes_position (p : Place text) : Passes Scan.position p p.pos p.rest p :=
  ⟨comesTo_position _, .refl p, rfl⟩

theorem passes_observe (p : Place text) {event : Event} (sound : event.Sound)
    (plain : event.start? = none) :
    Passes (Scan.observe event) p () p.rest (p.observe event sound plain) :=
  ⟨rfl, p.quiet_observe sound plain, rfl⟩

/-- The cursor moves to where a later part of the text starts. -/
theorem exists_moveTo (p : Place text) {rest : List Char} {pos : Nat} (behind : rest <:+ p.rest)
    (here : pos + String.utf8Len rest = text.utf8ByteSize) :
    ∃ q, Passes (Scan.moveTo pos) p () rest q := by
  obtain rfl : pos = text.utf8ByteSize - String.utf8Len rest := by omega
  exact ⟨p.move rest behind, rfl, p.quiet_move behind, rfl⟩

/-- The cursor moves over the front of its text. -/
theorem exists_moveOver (p : Place text) {front back : List Char} (parts : p.rest = front ++ back) :
    ∃ q, Passes (Scan.moveTo (p.pos + String.utf8Len front)) p () back q := by
  refine exists_moveTo p (parts ▸ List.suffix_append front back) ?_
  rw [← p.pos_add, parts, String.utf8Len_append]
  omega

/-- Between two parts a text can be cut. -/
theorem exists_splits {whole : String} {front back : List Char} {pos : Nat}
    (parts : whole = String.ofList (front ++ back)) (here : pos = String.utf8Len front) :
    ∃ valid : String.Pos.Raw.IsValid whole ⟨pos⟩,
      String.Pos.Splits ⟨⟨pos⟩, valid⟩ (String.ofList front) (String.ofList back) := by
  have joined : whole = String.ofList front ++ String.ofList back :=
    parts.trans String.ofList_append
  have place : (⟨pos⟩ : String.Pos.Raw) = (String.ofList front).rawEndPos := by
    rw [here, String.rawEndPos_ofList]
  exact ⟨String.Pos.Raw.isValid_iff_exists_append.2 ⟨_, _, joined, place⟩, joined, place⟩

/-- At a place the text can be cut, and what is cut off is the text of the place. -/
theorem exists_sliceFrom (p : Place text) :
    ∃ q, Passes (Scan.sliceFrom text p.pos) p (String.ofList p.rest) p.rest q := by
  obtain ⟨front, parts, here⟩ := p.exists_front
  obtain ⟨valid, splits⟩ := exists_splits parts here
  have cut : (Event.slice text p.pos).Sound := valid
  refine ⟨p.observe _ cut rfl, ?_, p.quiet_observe cut rfl, rfl⟩
  rw [Scan.sliceFrom, dif_pos valid, splits.eq_right (String.Pos.splits _)]
  rfl

theorem exists_sliceTo (p : Place text) (front back : List Char) :
    ∃ q, Passes (Scan.sliceTo (String.ofList (front ++ back)) (String.utf8Len front)) p
      (String.ofList front) p.rest q := by
  obtain ⟨valid, splits⟩ := exists_splits (Eq.refl (String.ofList (front ++ back))) rfl
  have cut : (Event.slice (String.ofList (front ++ back)) (String.utf8Len front)).Sound := valid
  refine ⟨p.observe _ cut rfl, ?_, p.quiet_observe cut rfl, rfl⟩
  rw [Scan.sliceTo, dif_pos valid, splits.eq_left (String.Pos.splits _)]
  rfl

theorem exists_skipBlank (p : Place text) :
    ∃ q, Passes (Scan.skipBlank text) p () (dropBlank p.rest) q := by
  obtain ⟨a, cut⟩ := exists_sliceFrom p
  have behind : dropBlank p.rest <:+ a.rest := by
    rw [cut.rest_eq]
    exact List.dropWhile_suffix _
  have size := String.utf8Len_le_of_suffix (behind.trans a.suffix)
  rw [String.utf8Len_toList] at size
  obtain ⟨q, moved⟩ := exists_moveTo a behind (Nat.sub_add_cancel size)
  refine ⟨q, (passes_position p).bind (cut.bind ?_)⟩
  dsimp only
  rw [String.toList_ofList, String.utf8ByteSize_ofList]
  exact moved

/-- Behind blanks the character is there: it is taken. -/
theorem exists_eat {c : Char} {more : List Char} (p : Place text)
    (found : dropBlank p.rest = c :: more) : ∃ q, Passes (Scan.eat text c) p true more q := by
  obtain ⟨a, skipped⟩ := exists_skipBlank p
  obtain ⟨b, cut⟩ := exists_sliceFrom a
  have first : a.rest = c :: more := skipped.rest_eq.trans found
  obtain ⟨q, moved⟩ := exists_moveOver b (show b.rest = [c] ++ more from cut.rest_eq.trans first)
  rw [String.utf8Len_cons, String.utf8Len_nil, Nat.zero_add] at moved
  refine ⟨q, skipped.bind ((passes_position a).bind (cut.bind ?_))⟩
  rw [first, String.toList_ofList, if_pos List.head?_cons]
  exact (passes_position b).bind (moved.bind_pure true)

/-- Behind blanks the character is not there: only the blanks are passed over. -/
theorem exists_eat_of_ne {c : Char} (p : Place text)
    (other : ∀ more, dropBlank p.rest ≠ c :: more) :
    ∃ q, Passes (Scan.eat text c) p false (dropBlank p.rest) q := by
  obtain ⟨a, skipped⟩ := exists_skipBlank p
  obtain ⟨b, cut⟩ := exists_sliceFrom a
  have absent : a.rest.head? ≠ some c := by
    rw [skipped.rest_eq, Ne, List.head?_eq_some_iff]
    rintro ⟨more, first⟩
    exact other more first
  refine ⟨b, skipped.bind ((passes_position a).bind (cut.bind ?_))⟩
  rw [String.toList_ofList, if_neg absent]
  exact ⟨ComesTo.done false _, .refl b, cut.rest_eq.trans skipped.rest_eq⟩

end TypeExpr

end RecordSynth
