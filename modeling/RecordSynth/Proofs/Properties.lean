import Mathlib
import RecordSynth.Properties
/-!
# Keys in order

Setting a key keeps its place or, where it is new, puts it behind all others. So after any number of
settings the keys are those that were there, and behind them the new ones as they first appear; each
has the value that was last set. Where no key occurs twice, a map is known by the entries that it has,
whatever their order.
-/

namespace RecordSynth

/-- A list with one more element is split before the new one or at it. -/
theorem concat_eq_append_cons_iff {α : Type} {l before after : List α} {c a : α} :
    l ++ [c] = before ++ a :: after ↔
      after = [] ∧ l = before ∧ c = a ∨
        ∃ others, after = others ++ [c] ∧ l = before ++ a :: others := by
  constructor
  · intro parts
    rcases List.eq_nil_or_concat' after with rfl | ⟨others, last, rfl⟩
    · obtain ⟨rfl, same⟩ := List.append_inj' parts rfl
      exact .inl ⟨rfl, rfl, List.singleton_inj.1 same⟩
    · rw [← List.cons_append, ← List.append_assoc] at parts
      obtain ⟨rfl, same⟩ := List.append_inj' parts rfl
      exact .inr ⟨others, by rw [List.singleton_inj.1 same], rfl⟩
  · rintro (⟨rfl, rfl, rfl⟩ | ⟨others, rfl, rfl⟩)
    · rfl
    · rw [List.append_assoc, List.cons_append]

/-- A computation fails where its first part does, or where that gives a value and the rest fails. -/
theorem bind_eq_error_iff {ε α β : Type} {x : Except ε α} {f : α → Except ε β} {e : ε} :
    x >>= f = .error e ↔ x = .error e ∨ ∃ a, x = .ok a ∧ f a = .error e := by
  cases x with
  | error e' => simp [bind, Except.bind]
  | ok a => simp [bind, Except.bind]

theorem bind_eq_ok_iff {ε α β : Type} {x : Except ε α} {f : α → Except ε β} {b : β} :
    x >>= f = .ok b ↔ ∃ a, x = .ok a ∧ f a = .ok b := by
  cases x with
  | error e => simp [bind, Except.bind]
  | ok a => simp [bind, Except.bind]

namespace Keyed

variable {α : Type}

/-- The keys, in order. -/
def keys (m : Keyed α) : List String := m.entries.map (·.1)

/-- No key occurs twice. -/
def Distinct (m : Keyed α) : Prop := m.keys.Nodup

/-- The last of the entries with a key has the value. -/
def LastEntry (entries : List (String × α)) (key : String) (value : α) : Prop :=
  ∃ before after, entries = before ++ (key, value) :: after ∧ key ∉ after.map (·.1)

theorem not_lastEntry_nil (key : String) (value : α) : ¬ LastEntry [] key value := by
  rintro ⟨before, after, parts, -⟩
  simp at parts

/-- An entry behind others is the last one with its key, and leaves the other keys as they are. -/
theorem lastEntry_concat (entries : List (String × α)) (k : String) (v : α) (key : String)
    (value : α) : LastEntry (entries ++ [(k, v)]) key value ↔
      if key = k then v = value else LastEntry entries key value := by
  constructor
  · rintro ⟨before, after, parts, behind⟩
    rcases concat_eq_append_cons_iff.1 parts with ⟨rfl, rfl, same⟩ | ⟨others, rfl, rfl⟩
    · obtain ⟨rfl, rfl⟩ := Prod.mk.inj same
      rw [if_pos rfl]
    · simp only [List.map_append, List.map_singleton, List.mem_append, List.mem_singleton, not_or]
        at behind
      rw [if_neg behind.2]
      exact ⟨before, others, rfl, behind.1⟩
  · by_cases same : key = k
    · rw [if_pos same]
      rintro rfl
      exact ⟨entries, [], by rw [same], List.not_mem_nil⟩
    · rw [if_neg same]
      rintro ⟨before, after, rfl, behind⟩
      refine ⟨before, after ++ [(k, v)], by simp, ?_⟩
      simp [same, behind]

/-! ## Setting -/

theorem map_fst_setEntry (key : String) (value : α) (entries : List (String × α)) :
    (setEntry key value entries).map (·.1) =
      if key ∈ entries.map (·.1) then entries.map (·.1) else entries.map (·.1) ++ [key] := by
  induction entries with
  | nil => simp [setEntry]
  | cons e rest ih =>
    obtain ⟨a, v⟩ := e
    rw [setEntry]
    by_cases there : a = key
    · simp [there]
    · rw [if_neg there, List.map_cons, ih]
      by_cases later : key ∈ rest.map (·.1)
      · simp [later]
      · simp [later, Ne.symm there]

/-- A key that is set keeps its place or comes last. -/
theorem keys_set (m : Keyed α) (key : String) (value : α) :
    (m.set key value).keys = if key ∈ m.keys then m.keys else m.keys ++ [key] :=
  map_fst_setEntry key value m.entries

theorem setAll_cons (m : Keyed α) (key : String) (value : α) (entries : List (String × α)) :
    m.setAll ((key, value) :: entries) = (m.set key value).setAll entries := rfl

theorem setAll_concat (m : Keyed α) (entries : List (String × α)) (key : String) (value : α) :
    m.setAll (entries ++ [(key, value)]) = (m.setAll entries).set key value := by
  rw [setAll, List.foldl_append]
  rfl

/-- New keys stand behind the others, as they first appear. -/
theorem keys_setAll (m : Keyed α) (entries : List (String × α)) :
    (m.setAll entries).keys =
      m.keys ++ ((entries.map (·.1)).filter (· ∉ m.keys)).eraseDups := by
  induction entries generalizing m with
  | nil => exact (List.append_nil _).symm
  | cons e rest ih =>
    obtain ⟨key, value⟩ := e
    rw [setAll_cons, ih, keys_set, List.map_cons]
    by_cases there : key ∈ m.keys
    · simp [there]
    · have others : (rest.map (·.1)).filter (· ∉ m.keys ++ [key]) =
          ((rest.map (·.1)).filter (· ∉ m.keys)).filter (fun k => !k == key) := by
        rw [List.filter_filter]
        congr 1
        funext k
        by_cases same : k = key <;> simp [same]
      rw [if_neg there, others, List.filter_cons_of_pos (by simpa using there),
        List.eraseDups_cons, List.append_assoc, List.singleton_append]

/-- The value of a key is the one that was last set. -/
theorem get?_setAll (m : Keyed α) (entries : List (String × α)) (key : String) (value : α) :
    (m.setAll entries).get? key = some value ↔
      LastEntry entries key value ∨
        key ∉ entries.map (·.1) ∧ m.get? key = some value := by
  induction entries using List.reverseRecOn with
  | nil => simp [setAll, not_lastEntry_nil]
  | append_singleton entries e ih =>
    obtain ⟨k, v⟩ := e
    rw [setAll_concat, get?_set, lastEntry_concat]
    by_cases same : key = k
    · simp [same]
    · rw [if_neg same, if_neg same, ih]
      simp [same]

/-! ## Maps with each key once -/

theorem Distinct.set {m : Keyed α} (distinct : m.Distinct) (key : String) (value : α) :
    (m.set key value).Distinct := by
  rw [Distinct, keys_set]
  split
  · exact distinct
  · rename_i absent
    rw [List.nodup_append_comm, List.singleton_append]
    exact List.nodup_cons.2 ⟨absent, distinct⟩

theorem Distinct.setAll {m : Keyed α} (distinct : m.Distinct) (entries : List (String × α)) :
    (m.setAll entries).Distinct := by
  induction entries generalizing m with
  | nil => exact distinct
  | cons e rest ih => exact ih (distinct.set e.1 e.2)

theorem distinct_empty : (⟨[]⟩ : Keyed α).Distinct := List.nodup_nil

theorem distinct_ofList (entries : List (String × α)) : (ofList entries).Distinct :=
  distinct_empty.setAll entries

theorem Distinct.get?_eq_some_iff {m : Keyed α} (distinct : m.Distinct) {key : String} {value : α} :
    m.get? key = some value ↔ (key, value) ∈ m.entries := by
  obtain ⟨entries⟩ := m
  change entries.lookup key = some value ↔ (key, value) ∈ entries
  replace distinct : (entries.map (·.1)).Nodup := distinct
  induction entries with
  | nil => simp
  | cons e rest ih =>
    obtain ⟨k, v⟩ := e
    obtain ⟨fresh, distinct⟩ := List.nodup_cons.1 distinct
    rw [lookup_cons, List.mem_cons, Prod.mk.injEq]
    by_cases same : key = k
    · have absent : (k, value) ∉ rest := fun member => fresh (List.mem_map.2 ⟨_, member, rfl⟩)
      simp [same, absent, eq_comm]
    · simp [same, ih distinct]

/-- Two maps with the same entries agree, whatever the order of these. -/
theorem Distinct.get?_eq_of_perm {m n : Keyed α} (distinct : m.Distinct)
    (same : m.entries.Perm n.entries) (key : String) : m.get? key = n.get? key := by
  have distinct' : n.Distinct := (same.map Prod.fst).nodup_iff.1 distinct
  refine Option.ext fun value => ?_
  rw [distinct.get?_eq_some_iff, distinct'.get?_eq_some_iff, same.mem_iff]

theorem entries_set_of_fresh {m : Keyed α} {key : String} (fresh : key ∉ m.keys) (value : α) :
    (m.set key value).entries = m.entries ++ [(key, value)] := by
  obtain ⟨entries⟩ := m
  change setEntry key value entries = entries ++ [(key, value)]
  replace fresh : key ∉ entries.map (·.1) := fresh
  induction entries with
  | nil => rfl
  | cons e rest ih =>
    rw [List.map_cons, List.mem_cons, not_or] at fresh
    rw [setEntry, if_neg (Ne.symm fresh.1), ih fresh.2, List.cons_append]

/-- Entries with different keys stay as they are. -/
theorem entries_ofList {entries : List (String × α)} (distinct : (entries.map (·.1)).Nodup) :
    (ofList entries).entries = entries := by
  induction entries using List.reverseRecOn with
  | nil => rfl
  | append_singleton entries e ih =>
    obtain ⟨key, value⟩ := e
    rw [List.map_append, List.nodup_append_comm, List.map_singleton, List.singleton_append,
      List.nodup_cons] at distinct
    have before := ih distinct.2
    rw [ofList] at before ⊢
    rw [setAll_concat, entries_set_of_fresh, before]
    rw [keys, before]
    exact distinct.1

/-! ## Removing -/

/-- The map without a key. -/
def erase (m : Keyed α) (key : String) : Keyed α := ⟨m.entries.filter (·.1 ≠ key)⟩

/-- A key that does not pass a test is not found among the entries that do. -/
theorem lookup_filter (p : String → Bool) (entries : List (String × α)) (key : String) :
    (entries.filter (p ·.1)).lookup key = if p key then entries.lookup key else none := by
  induction entries with
  | nil => simp
  | cons e rest ih =>
    obtain ⟨k, v⟩ := e
    rw [List.filter_cons, lookup_cons]
    by_cases same : key = k
    · subst same
      cases passes : p key with
      | true => simp
      | false => simpa [passes] using ih
    · cases passes : p k <;> simp [same, ih, lookup_cons]

theorem get?_erase (m : Keyed α) (key k : String) :
    (m.erase key).get? k = if k = key then none else m.get? k := by
  have found := lookup_filter (fun k => decide (k ≠ key)) m.entries k
  rw [get?, erase, found]
  by_cases same : k = key <;> simp [same, get?]

end Keyed

end RecordSynth
