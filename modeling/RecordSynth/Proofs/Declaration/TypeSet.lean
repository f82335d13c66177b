import RecordSynth.Declaration.TypeSet
import RecordSynth.Proofs.Properties
import RecordSynth.Proofs.QualifiedName
/-!
# Sets of types

No two types of a set share a name, whatever was added and removed and in which order. Such a
history says by itself what it leaves: an insertion has an effect if no type of its name is recorded
at that time, and it stands if no removal of the name comes later. The types of the set are those
whose insertions stand, in the order of these insertions, so a name that was removed and added again
is last, with the arguments it has then.
-/

namespace RecordSynth

/-- Repetitions may be removed before or after a choice. -/
theorem eraseDups_filter {α : Type} [DecidableEq α] (keep : α → Bool) (as : List α) :
    (as.filter keep).eraseDups = as.eraseDups.filter keep := by
  induction as using List.reverseRecOn with
  | nil => rfl
  | append_singleton as a ih =>
    rw [List.filter_append, List.eraseDups_append, List.eraseDups_append, List.filter_append, ih]
    congr 1
    by_cases kept : keep a = true
    · by_cases present : a ∈ as <;> simp [List.removeAll, List.eraseDups_cons, kept, present]
    · by_cases present : a ∈ as <;> simp [List.removeAll, List.eraseDups_cons, kept, present]

namespace TypeSet

variable {s : TypeSet} {t u : TypeExpr} {q : String}

/-! ## Names -/

/-- The names in the set, in order of addition. -/
def names (s : TypeSet) : List String := s.types.map (·.name.text)

theorem contains_iff_mem_names : s.contains q = true ↔ q ∈ s.names := by
  simp [contains, names]

/-- Names may be looked up by their texts, for no two names have the same. -/
theorem containsName_iff_mem_names {n : QualifiedName} :
    s.containsName n = true ↔ n.text ∈ s.names := by
  rw [containsName, List.any_eq_true, names, List.mem_map]
  constructor
  · rintro ⟨u, among, same⟩
    exact ⟨u, among, congrArg QualifiedName.text (beq_iff_eq.1 same)⟩
  · rintro ⟨u, among, same⟩
    exact ⟨u, among, beq_iff_eq.2 (QualifiedName.text_injective same)⟩

theorem nodup_names (differ : (s.types.map (·.name)).Nodup) : s.names.Nodup := by
  have texts := differ.map fun _ _ equal => QualifiedName.text_injective equal
  rwa [List.map_map] at texts

/-- Where names differ, a name finds the one type that has it. -/
theorem find?_eq_some_iff (differ : s.names.Nodup) :
    s.find? q = some t ↔ t ∈ s.types ∧ t.name.text = q := by
  have named : ∀ u, s.find? q = some u → u.name.text = q := by
    intro u found
    have spelled := List.find?_some found
    exact beq_iff_eq.1 spelled
  constructor
  · intro found
    exact ⟨List.mem_of_find?_eq_some found, named t found⟩
  · rintro ⟨member, spelled⟩
    cases found : s.find? q with
    | none =>
      have other := List.find?_eq_none.1 found t member
      exact absurd (beq_iff_eq.2 spelled) other
    | some u =>
      have among : u ∈ s.types := List.mem_of_find?_eq_some found
      have same : u.name.text = t.name.text := (named u found).trans spelled.symm
      rw [List.inj_on_of_nodup_map differ among member same]

/-! ## Additions and removals -/

theorem types_insert (s : TypeSet) (t : TypeExpr) :
    (s.insert t).types = s.types ++ if t.name.text ∈ s.names then [] else [t] := by
  unfold insert
  by_cases present : t.name.text ∈ s.names
  · rw [if_pos (containsName_iff_mem_names.2 present), if_pos present, List.append_nil]
  · rw [if_neg (mt containsName_iff_mem_names.1 present), if_neg present]

theorem add_eq (s : TypeSet) (t : TypeExpr) :
    s.add t = if t.name.text ∈ s.names then (false, s) else (true, ⟨s.types ++ [t]⟩) := by
  rw [add]
  simp only [containsName_iff_mem_names]

theorem mem_insert (member : u ∈ (s.insert t).types) : u ∈ s.types ∨ u = t := by
  rw [types_insert, List.mem_append] at member
  refine member.imp_right ?_
  split
  · exact nofun
  · exact List.mem_singleton.1

theorem mem_names_insert : q ∈ (s.insert t).names ↔ q ∈ s.names ∨ q = t.name.text := by
  rw [names, types_insert, List.map_append, List.mem_append, ← names]
  by_cases present : t.name.text ∈ s.names
  · simp only [present, if_true, List.map_nil, List.not_mem_nil, or_false, iff_self_or]
    rintro rfl
    exact present
  · simp [present]

theorem names_erase (name : String) : (s.erase name).names = s.names.filter (· != name) := by
  rw [names, names, List.filter_map]
  rfl

/-- Names of types stay different when a type is added. -/
theorem nodup_insert (differ : (s.types.map (·.name)).Nodup) (t : TypeExpr) :
    ((s.insert t).types.map (·.name)).Nodup := by
  rw [types_insert]
  split
  · rwa [List.append_nil]
  · rename_i absent
    have fresh : t.name ∉ s.types.map (·.name) := by
      intro member
      obtain ⟨u, among, equal⟩ := List.mem_map.1 member
      exact absent (List.mem_map.2 ⟨u, among, congrArg QualifiedName.text equal⟩)
    rw [List.map_append, List.map_singleton, List.nodup_append_comm]
    exact List.nodup_cons.2 ⟨fresh, differ⟩

theorem nodup_erase (differ : (s.types.map (·.name)).Nodup) (name : String) :
    ((s.erase name).types.map (·.name)).Nodup :=
  differ.sublist (List.filter_sublist.map _)

/-- The set with several types added has their names and those it had. -/
theorem mem_names_foldl_insert {ts : List TypeExpr} :
    q ∈ (ts.foldl insert s).names ↔ q ∈ s.names ∨ ∃ t ∈ ts, t.name.text = q := by
  induction ts using List.reverseRecOn with
  | nil => simp
  | append_singleton ts t ih =>
    rw [List.foldl_concat, mem_names_insert, ih]
    simp [or_assoc, eq_comm]

/-- Names come to the end of the set in the order in which they come up first, but for those it
has. -/
theorem types_foldl_insert (s : TypeSet) (ns : List QualifiedName) :
    ((ns.map TypeExpr.ofName).foldl insert s).types =
      s.types ++ (ns.eraseDups.filter fun n => n.text ∉ s.names).map TypeExpr.ofName := by
  induction ns using List.reverseRecOn with
  | nil => simp
  | append_singleton ns n ih =>
    have known : (TypeExpr.ofName n).name.text ∈ ((ns.map TypeExpr.ofName).foldl insert s).names ↔
        n.text ∈ s.names ∨ n ∈ ns := by
      rw [mem_names_foldl_insert]
      refine or_congr_right ⟨?_, fun member => ⟨_, List.mem_map_of_mem member, rfl⟩⟩
      rintro ⟨t, member, same⟩
      obtain ⟨k, among, rfl⟩ := List.mem_map.1 member
      obtain rfl : k = n := QualifiedName.text_injective same
      exact among
    rw [List.map_append, List.map_singleton, List.foldl_concat, types_insert, ih,
      List.eraseDups_append, List.filter_append, List.map_append, ← List.append_assoc]
    congr 1
    simp only [known]
    by_cases present : n.text ∈ s.names <;> by_cases earlier : n ∈ ns <;>
      simp [List.removeAll, List.eraseDups_cons, present, earlier]

/-- Of types with different names, those come to the end of the set whose names it does not have. -/
theorem types_foldl_insert_of_nodup {ts : List TypeExpr} (differ : (ts.map (·.name)).Nodup)
    (s : TypeSet) :
    (ts.foldl insert s).types = s.types ++ ts.filter fun t => t.name.text ∉ s.names := by
  induction ts using List.reverseRecOn with
  | nil => simp
  | append_singleton ts t ih =>
    rw [List.map_append, List.map_singleton, List.nodup_append_comm] at differ
    obtain ⟨fresh, others⟩ := List.nodup_cons.1 differ
    have known : t.name.text ∈ (ts.foldl insert s).names ↔ t.name.text ∈ s.names := by
      rw [mem_names_foldl_insert]
      refine or_iff_left ?_
      rintro ⟨u, member, same⟩
      exact fresh (List.mem_map.2 ⟨u, member, QualifiedName.text_injective same⟩)
    rw [List.foldl_concat, types_insert, ih others, List.filter_append, ← List.append_assoc]
    congr 1
    simp only [known]
    by_cases present : t.name.text ∈ s.names <;> simp [present]

theorem erase_insert_of_ne {name : String} {t : TypeExpr} (other : t.name.text ≠ name)
    (s : TypeSet) : (s.insert t).erase name = (s.erase name).insert t := by
  have present : (s.erase name).containsName t.name = s.containsName t.name := by
    simp only [containsName, erase, List.any_filter]
    congr 1
    funext u
    by_cases same : u.name = t.name
    · simp [same, other]
    · simp [same]
  unfold insert
  rw [present]
  split
  · rfl
  · simp [erase, List.filter_append, other]

theorem erase_foldl_insert {name : String} {ts : List TypeExpr}
    (others : ∀ t ∈ ts, t.name.text ≠ name) (s : TypeSet) :
    (ts.foldl insert s).erase name = ts.foldl insert (s.erase name) := by
  induction ts generalizing s with
  | nil => rfl
  | cons t ts ih =>
    have rest := ih fun u member => others u (List.mem_cons_of_mem t member)
    rw [List.foldl_cons, List.foldl_cons, rest, erase_insert_of_ne (others t List.mem_cons_self)]

/-! ## Sets of names -/

/-- The set of types with the given names, each where its name occurs first. -/
def ofNames (ns : List QualifiedName) : TypeSet := ⟨ns.eraseDups.map TypeExpr.ofName⟩

theorem mem_ofNames {ns : List QualifiedName} {t : TypeExpr} :
    t ∈ (ofNames ns).types ↔ ∃ n ∈ ns, t = TypeExpr.ofName n := by
  simp only [ofNames, List.mem_map, List.mem_eraseDups, eq_comm]

theorem ofNames_eq_foldl (ns : List QualifiedName) :
    ofNames ns = (ns.map TypeExpr.ofName).foldl insert {} := by
  have added := types_foldl_insert {} ns
  have new : (ns.eraseDups.filter fun n => n.text ∉ ({} : TypeSet).names) = ns.eraseDups :=
    List.filter_eq_self.2 fun _ _ => decide_eq_true List.not_mem_nil
  rw [new] at added
  exact congrArg mk added.symm

theorem foldl_insert_ofNames (ns ks : List QualifiedName) :
    (ks.map TypeExpr.ofName).foldl insert (ofNames ns) = ofNames (ns ++ ks) := by
  rw [ofNames_eq_foldl, ofNames_eq_foldl, List.map_append, List.foldl_append]

theorem erase_ofNames (ns : List QualifiedName) (n : QualifiedName) :
    (ofNames ns).erase n.text = ofNames (ns.filter (· ≠ n)) := by
  -- Imports are erased by their texts, and no two names have the same.
  have same : ∀ k : QualifiedName, (k.text != n.text) = decide (k ≠ n) := by
    intro k
    by_cases equal : k = n
    · simp [equal]
    · have differ : k.text ≠ n.text := fun texts => equal (QualifiedName.text_injective texts)
      simp [equal, differ]
  rw [erase, ofNames, ofNames, eraseDups_filter, List.filter_map]
  simp only [Function.comp_def, TypeExpr.ofName, same]
  rfl

/-! ## Histories -/

/-- A change of a set of types. -/
inductive Change where
  | insert (t : TypeExpr)
  | erase (name : String)

/-- The set after a change. -/
def change (s : TypeSet) : Change → TypeSet
  | .insert t => s.insert t
  | .erase name => s.erase name

/-- The set that changes make of the empty one, one after another. -/
def after (history : List Change) : TypeSet := history.foldl change {}

/-- A type of the name was added, and none of the name erased after that. -/
def Recorded (history : List Change) (q : String) : Prop :=
  ∃ before t later, history = before ++ .insert t :: later ∧ t.name.text = q ∧ .erase q ∉ later

theorem after_concat (history : List Change) (c : Change) :
    after (history ++ [c]) = (after history).change c := by
  rw [after, List.foldl_concat, after]

theorem recorded_concat {history : List Change} {c : Change} : Recorded (history ++ [c]) q ↔
    (∃ t, c = .insert t ∧ t.name.text = q) ∨ Recorded history q ∧ c ≠ .erase q := by
  constructor
  · rintro ⟨before, t, later, parts, named, kept⟩
    rcases concat_eq_append_cons_iff.1 parts with ⟨rfl, rfl, rfl⟩ | ⟨others, rfl, rfl⟩
    · exact .inl ⟨t, rfl, named⟩
    · rw [List.mem_append, List.mem_singleton, not_or] at kept
      exact .inr ⟨⟨before, t, others, rfl, named, kept.1⟩, Ne.symm kept.2⟩
  · rintro (⟨t, rfl, named⟩ | ⟨⟨before, t, later, rfl, named, kept⟩, other⟩)
    · exact ⟨history, t, [], rfl, named, List.not_mem_nil⟩
    · refine ⟨before, t, later ++ [c], by simp, named, ?_⟩
      rw [List.mem_append, List.mem_singleton, not_or]
      exact ⟨kept, Ne.symm other⟩

/-- The set has the names that its history leaves. -/
theorem mem_names_after {history : List Change} :
    q ∈ (after history).names ↔ Recorded history q := by
  induction history using List.reverseRecOn with
  | nil => simp [after, names, Recorded]
  | append_singleton history c ih =>
    rw [after_concat, recorded_concat, ← ih]
    cases c with
    | insert t =>
      rw [change, mem_names_insert, or_comm, eq_comm]
      simp
    | erase name =>
      rw [change, names_erase, List.mem_filter, bne_iff_ne, ne_comm]
      simp

/-- Whatever the history, no name is there twice. -/
theorem nodup_names_after (history : List Change) : (after history).names.Nodup := by
  refine nodup_names ?_
  induction history using List.reverseRecOn with
  | nil => exact List.nodup_nil
  | append_singleton history c ih =>
    rw [after_concat]
    cases c with
    | insert t => exact nodup_insert ih t
    | erase name => exact nodup_erase ih name

theorem after_append_inserts (history : List Change) (ts : List TypeExpr) :
    after (history ++ ts.map .insert) = ts.foldl insert (after history) := by
  rw [after, List.foldl_append, List.foldl_map]
  rfl

/-- Of additions nothing matters but which names are added. -/
theorem recorded_append_inserts {history : List Change} {ts : List TypeExpr} :
    Recorded (history ++ ts.map .insert) q ↔ Recorded history q ∨ ∃ t ∈ ts, t.name.text = q := by
  induction ts using List.reverseRecOn with
  | nil => simp
  | append_singleton ts t ih =>
    rw [List.map_append, List.map_singleton, ← List.append_assoc, recorded_concat, ih]
    simp [or_comm, or_left_comm]

/-! ## Insertions that stand -/

/-- The insertion with this place in the history puts its type into the set: no type of the name
is recorded before it. -/
def Effective (history : List Change) (i : Nat) (t : TypeExpr) : Prop :=
  history[i]? = some (.insert t) ∧ ¬ Recorded (history.take i) t.name.text

/-- The insertion with this place is the last effective one of its name, and no removal of the name
comes behind it. -/
structure Standing (history : List Change) (i : Nat) (t : TypeExpr) : Prop where
  effective : Effective history i t
  last : ∀ j u, Effective history j u → u.name = t.name → j ≤ i
  kept : .erase t.name.text ∉ history.drop (i + 1)

variable {history : List Change} {i : Nat}

theorem Effective.lt_length (effective : Effective history i t) : i < history.length :=
  (List.getElem?_eq_some_iff.1 effective.1).1

/-- As long as a type of the name is recorded, no other insertion of the name has an effect. -/
theorem standing_iff : Standing history i t ↔
    Effective history i t ∧ .erase t.name.text ∉ history.drop (i + 1) := by
  refine ⟨fun standing => ⟨standing.effective, standing.kept⟩, ?_⟩
  rintro ⟨effective, kept⟩
  refine ⟨effective, ?_, kept⟩
  intro j u again same
  by_contra later
  -- Between the two places there is no removal, so the name is still recorded at the second one.
  refine again.2 ⟨history.take i, t, (history.take j).drop (i + 1), ?_, by rw [same], ?_⟩
  · have below : i < (history.take j).length := by
      have := again.lt_length
      rw [List.length_take]
      omega
    have here : (history.take j)[i] = .insert t := by
      rw [List.getElem_take]
      exact (List.getElem?_eq_some_iff.1 effective.1).2
    have front : (history.take j).take i = history.take i := by
      rw [List.take_take, min_eq_left (by omega)]
    rw [← here, ← List.drop_eq_getElem_cons below, ← front, List.take_append_drop]
  · rw [same, List.drop_take]
    exact fun removed => kept (List.mem_of_mem_take removed)

theorem standing_concat {c : Change} : Standing (history ++ [c]) i t ↔
    (Standing history i t ∧ c ≠ .erase t.name.text) ∨
      i = history.length ∧ c = .insert t ∧ ¬ Recorded history t.name.text := by
  rcases Nat.lt_trichotomy i history.length with before | rfl | behind
  · have here : i ≠ history.length := before.ne
    rw [standing_iff, standing_iff, Effective, Effective, List.getElem?_append_left before,
      List.take_append_of_le_length before.le, List.drop_append_of_le_length before,
      List.mem_append, List.mem_singleton, not_or]
    simp only [here, false_and, or_false, and_assoc, ne_comm, ne_eq]
  · have outside : ¬ Standing history history.length t := fun standing =>
      Nat.lt_irrefl _ standing.effective.lt_length
    rw [or_iff_right fun both => outside both.1, standing_iff, Effective]
    simp
  · have outside : ¬ Standing history i t := fun standing => by
      have := standing.effective.lt_length
      omega
    have beyond : ¬ Standing (history ++ [c]) i t := fun standing => by
      have := standing.effective.lt_length
      rw [List.length_append, List.length_singleton] at this
      omega
    simp only [outside, beyond, behind.ne', false_and, or_false]

/-- The types of the set, each with the place of the insertion that put it there. -/
theorem exists_entries (history : List Change) : ∃ entries : List (Nat × TypeExpr),
    entries.map (·.2) = (after history).types ∧ entries.Pairwise (·.1 < ·.1) ∧
      ∀ i t, (i, t) ∈ entries ↔ Standing history i t := by
  induction history using List.reverseRecOn with
  | nil => exact ⟨[], rfl, .nil, fun i t => by simp [standing_iff, Effective]⟩
  | append_singleton history c ih =>
    obtain ⟨entries, listed, ordered, exact⟩ := ih
    rw [after_concat]
    cases c with
    | insert t =>
      rw [change, types_insert, ← listed]
      by_cases present : Recorded history t.name.text
      · rw [if_pos (mem_names_after.2 present), List.append_nil]
        refine ⟨entries, rfl, ordered, ?_⟩
        intro i u
        rw [exact, standing_concat]
        constructor
        · exact fun standing => .inl ⟨standing, nofun⟩
        · rintro (⟨standing, -⟩ | ⟨-, added, fresh⟩)
          · exact standing
          · obtain rfl := Change.insert.inj added
            exact absurd present fresh
      · rw [if_neg (mt mem_names_after.1 present)]
        refine ⟨entries ++ [(history.length, t)], List.map_append, ?_, ?_⟩
        · refine List.pairwise_append.2 ⟨ordered, List.pairwise_singleton _ _, ?_⟩
          rintro ⟨i, u⟩ member e last
          rw [List.mem_singleton.1 last]
          exact ((exact i u).1 member).effective.lt_length
        · intro i u
          rw [List.mem_append, List.mem_singleton, exact, standing_concat, Prod.mk.injEq]
          constructor
          · rintro (standing | ⟨rfl, rfl⟩)
            · exact .inl ⟨standing, nofun⟩
            · exact .inr ⟨rfl, rfl, present⟩
          · rintro (⟨standing, -⟩ | ⟨rfl, added, -⟩)
            · exact .inl standing
            · exact .inr ⟨rfl, (Change.insert.inj added).symm⟩
    | erase name =>
      refine ⟨entries.filter (·.2.name.text != name), ?_, ordered.filter _, ?_⟩
      · rw [change, erase, ← listed, List.filter_map]
        rfl
      · intro i u
        rw [List.mem_filter, exact, standing_concat, bne_iff_ne]
        constructor
        · rintro ⟨standing, other⟩
          exact .inl ⟨standing, fun same => other (Change.erase.inj same).symm⟩
        · rintro (⟨standing, other⟩ | ⟨-, added, -⟩)
          · exact ⟨standing, fun same => other (congrArg _ same.symm)⟩
          · cases added

/-- What a set is, said by its history alone. -/
structure Reflects (history : List Change) (s : TypeSet) : Prop where
  /-- No two types have the same name. -/
  differ : s.names.Nodup
  /-- Each type is found by its own name. -/
  found : ∀ t ∈ s.types, s.find? t.name.text = some t
  /-- The types are those whose insertions stand, in the order of these insertions. -/
  standing : ∃ entries : List (Nat × TypeExpr), entries.map (·.2) = s.types ∧
    entries.Pairwise (·.1 < ·.1) ∧ ∀ i t, (i, t) ∈ entries ↔ Standing history i t
  contains : ∀ name, s.contains name = true ↔ ∃ t ∈ s.types, t.name.text = name
  size : s.size = s.types.length
  isEmpty : s.isEmpty = true ↔ s.types = []

/-- Any additions and removals leave the set that reflects them. The next addition tells whether its
name is new, and then its type comes last; otherwise it changes nothing. The next removal gives the
one type of its name, if there is one, and keeps the others in their order. -/
theorem after_reflects (history : List Change) :
    Reflects history (after history) ∧
    (∀ t, ((after history).add t).2 = after (history ++ [.insert t]) ∧
      (after history).add t =
        if t.name.text ∈ (after history).names then (false, after history)
        else (true, ⟨(after history).types ++ [t]⟩)) ∧
    ∀ name, ((after history).take name).2 = after (history ++ [.erase name]) ∧
      (∀ t, ((after history).take name).1 = some t ↔
        t ∈ (after history).types ∧ t.name.text = name) ∧
      ((after history).take name).2.types =
        (after history).types.filter fun t => t.name.text ≠ name := by
  have differ := nodup_names_after history
  refine ⟨⟨differ, ?_, exists_entries history, ?_, rfl, ?_⟩, ?_, ?_⟩
  · intro t member
    exact (find?_eq_some_iff differ).2 ⟨member, rfl⟩
  · intro name
    rw [contains_iff_mem_names, names, List.mem_map]
  · rw [isEmpty, List.isEmpty_iff]
  · intro t
    rw [after_concat, snd_add]
    exact ⟨rfl, add_eq _ t⟩
  · intro name
    rw [after_concat]
    refine ⟨rfl, fun t => find?_eq_some_iff differ, ?_⟩
    refine List.filter_congr ?_
    intro t _
    rw [Bool.eq_iff_iff, bne_iff_ne, decide_eq_true_iff]

example :
    let a := TypeExpr.ofName { scope := [], simple := ⟨"A", by decide⟩ }
    let b := TypeExpr.ofName { scope := [], simple := ⟨"B", by decide⟩ }
    (after [.insert a, .insert b, .insert (a.apply b), .erase "A", .insert (a.apply a),
      .insert a]).types = [b, a.apply a] := by decide

end TypeSet

end RecordSynth
