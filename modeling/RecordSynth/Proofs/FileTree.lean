import RecordSynth.FileTree
import RecordSynth.Proofs.Text
/-!
# Files that are written

A tree is sound if everything in it lies in a directory. Writing a file keeps a tree sound and keeps
whatever was at other places, so a file that was written is read again as long as nothing else is
written to its place.
-/

namespace RecordSynth

/-! ## Octets of a text -/

theorem toList_loop_eq (bytes : ByteArray) (i : Nat) (r : List UInt8) :
    ByteArray.toList.loop bytes i r = r.reverse ++ bytes.data.toList.drop i := by
  induction i, r using ByteArray.toList.loop.induct bytes with
  | case1 i r below ih =>
    have below' : i < bytes.data.toList.length := by simpa using below
    have byte : bytes.get! i = bytes.data.toList[i] := getElem!_pos bytes.data i below'
    rw [ByteArray.toList.loop, if_pos below, ih, List.drop_eq_getElem_cons below', byte]
    simp
  | case2 i r past =>
    have past' : bytes.data.toList.length ≤ i := by simpa using past
    rw [ByteArray.toList.loop, if_neg past, List.drop_eq_nil_of_le past', List.append_nil]

/-- The octets of a text are read as the text. -/
theorem fromUTF8?_toUTF8 (s : String) :
    String.fromUTF8? ⟨s.toUTF8.toList.toArray⟩ = some s := by
  have octets : s.toUTF8.toList = s.toByteArray.data.toList := toList_loop_eq s.toUTF8 0 []
  rw [octets, Array.toArray_toList, String.fromUTF8?, dif_pos s.isValidUTF8]
  rfl

namespace FileTree

variable {t u : FileTree} {place : List String} {e : Entry}

/-! ## Places -/

/-- The place that names lead to from a place. -/
def follow : List String → List String → List String
  | place, [] => place
  | place, n :: ns => if n = ".." then follow place.dropLast ns else follow (place ++ [n]) ns

/-- The place that a path leads to. -/
def placeOf (t : FileTree) (path : String) : List String :=
  follow (t.start path) (Path.names path)

theorem follow_append (place ns ks : List String) :
    follow place (ns ++ ks) = follow (follow place ns) ks := by
  induction ns generalizing place with
  | nil => rfl
  | cons n ns ih =>
    rw [List.cons_append, follow, follow]
    split
    · exact ih _
    · exact ih _

theorem follow_of_ne_above {ns : List String} (plain : ∀ n ∈ ns, n ≠ "..")
    (place : List String) : follow place ns = place ++ ns := by
  induction ns generalizing place with
  | nil => simp [follow]
  | cons n ns ih =>
    have rest := ih (fun k later => plain k (List.mem_cons_of_mem n later)) (place ++ [n])
    rw [follow, if_neg (plain n List.mem_cons_self), rest, List.append_assoc]
    rfl

/-- The names can be walked from a place to another: each step starts in a directory. -/
inductive Leads (t : FileTree) : List String → List String → List String → Prop
  | here (place : List String) : Leads t place [] place
  | up {place ns last : List String} (inside : t.entry? place = some .directory)
      (rest : Leads t place.dropLast ns last) : Leads t place (".." :: ns) last
  | down {place ns last : List String} {n : String} (inside : t.entry? place = some .directory)
      (plain : n ≠ "..") (short : n.utf8ByteSize ≤ maxName)
      (rest : Leads t (place ++ [n]) ns last) : Leads t place (n :: ns) last

namespace Leads

theorem eq_follow {ns last : List String} (leads : Leads t place ns last) :
    last = follow place ns := by
  induction leads with
  | here => rfl
  | up _ _ ih => rw [follow, if_pos rfl, ih]
  | down _ plain _ _ ih => rw [follow, if_neg plain, ih]

theorem inside {ns last : List String} (leads : Leads t place ns last) (given : ns ≠ []) :
    t.entry? place = some .directory := by
  cases leads with
  | here => exact absurd rfl given
  | up inside _ => exact inside
  | down inside _ _ _ => exact inside

theorem mono (kept : ∀ place, t.entry? place = some .directory → u.entry? place = some .directory)
    {ns last : List String} (leads : Leads t place ns last) : Leads u place ns last := by
  induction leads with
  | here => exact .here _
  | up inside _ ih => exact .up (kept _ inside) ih
  | down inside plain short _ ih => exact .down (kept _ inside) plain short ih

theorem concat {ns last : List String} {n : String} (leads : Leads t place ns last)
    (inside : t.entry? last = some .directory) (plain : n ≠ "..")
    (short : n.utf8ByteSize ≤ maxName) : Leads t place (ns ++ [n]) (last ++ [n]) := by
  induction leads with
  | here => exact .down inside plain short (.here _)
  | up first _ ih => exact .up first (ih inside)
  | down first other fits _ ih => exact .down first other fits (ih inside)

/-- A path is walked by its names, if it ends with one. -/
theorem walk_eq {ps last : List String}
    (leads : Leads t place (ps.filter fun n => n ≠ "" ∧ n ≠ ".") last)
    (ends : ∀ n, ps.getLast? = some n → n ≠ "" ∧ n ≠ ".") : t.walk place ps = .ok last := by
  induction ps generalizing place with
  | nil =>
    cases leads
    rfl
  | cons p ps ih =>
    have ends' : ∀ n, ps.getLast? = some n → n ≠ "" ∧ n ≠ "." := by
      intro n final
      refine ends n ?_
      rw [List.getLast?_cons, final]
      rfl
    have given : (p :: ps).filter (fun n => n ≠ "" ∧ n ≠ ".") ≠ [] := by
      have proper := ends _ (List.getLast?_eq_some_getLast (List.cons_ne_nil p ps))
      exact List.ne_nil_of_mem (List.mem_filter.2 ⟨List.getLast_mem _, decide_eq_true proper⟩)
    have inside := leads.inside given
    rw [walk, inside]
    dsimp only
    by_cases skipped : p = "" ∨ p = "."
    · rw [List.filter_cons_of_neg (by simpa [imp_iff_not_or] using skipped)] at leads
      rw [if_pos skipped, ih leads ends']
    · rw [List.filter_cons_of_pos (by simpa using skipped)] at leads
      rw [if_neg skipped]
      cases leads with
      | up _ rest => rw [if_pos rfl, ih rest ends']
      | down _ plain short rest => rw [if_neg plain, if_neg (Nat.not_lt.2 short), ih rest ends']

end Leads

/-! ## Sound trees -/

/-- Everything in the tree lies in a directory, and relative paths start in one. -/
structure Sound (t : FileTree) : Prop where
  home : t.entry? t.home = some .directory
  parents : ∀ place e, t.entry? place = some e → t.entry? place.dropLast = some .directory

theorem Sound.start (sound : t.Sound) (path : String) :
    t.entry? (t.start path) = some .directory := by
  rw [FileTree.start]
  split
  · rfl
  · exact sound.home

theorem lookup_put (given : place ≠ []) (e : Entry) (other : List String) :
    FileTree.entry? (t.put place e) other = if other = place then some e else t.entry? other := by
  unfold FileTree.entry? FileTree.put
  by_cases same : other = place
  · rw [if_pos same, if_neg (same ▸ given), same, List.lookup_cons_self]
  · have kept : (t.entries.filter (·.1 ≠ place)).lookup other = t.entries.lookup other := by
      induction t.entries with
      | nil => rfl
      | cons entry entries ih =>
        obtain ⟨k, v⟩ := entry
        by_cases gone : k = place
        · have passed : (other == k) = false := beq_false_of_ne (gone ▸ same)
          rw [List.filter_cons_of_neg (by simp [gone]), ih, List.lookup_cons, passed]
        · rw [List.filter_cons_of_pos (by simp [gone]), List.lookup_cons, List.lookup_cons, ih]
    rw [if_neg same, List.lookup_cons, beq_false_of_ne same]
    dsimp only
    rw [kept]

theorem sound_empty : ({} : FileTree).Sound := by
  refine ⟨rfl, ?_⟩
  intro place e there
  unfold FileTree.entry? at there
  split at there
  · rename_i root
    rw [root]
    rfl
  · cases there

/-- A new entry in a directory, which takes the place of no directory, keeps the tree sound. -/
theorem Sound.put (sound : t.Sound) {n : String} (inside : t.entry? place = some .directory)
    (other : t.entry? (place ++ [n]) ≠ some .directory) (e : Entry) :
    (t.put (place ++ [n]) e).Sound := by
  have given : place ++ [n] ≠ [] := List.concat_ne_nil _ _
  have kept : ∀ q, t.entry? q = some .directory →
      FileTree.entry? (t.put (place ++ [n]) e) q = some .directory := by
    intro q directory
    have distinct : q ≠ place ++ [n] := by
      rintro rfl
      exact other directory
    rw [lookup_put given, if_neg distinct, directory]
  refine ⟨kept _ sound.home, ?_⟩
  intro q f there
  rw [lookup_put given] at there
  refine kept _ ?_
  by_cases same : q = place ++ [n]
  · rw [same, List.dropLast_concat]
    exact inside
  · rw [if_neg same] at there
    exact sound.parents q f there

/-- All that is in the tree is in the other one. -/
def Within (t u : FileTree) : Prop := ∀ q e, t.entry? q = some e → u.entry? q = some e

/-- The directories on the way of names are there once they are made, and nothing is lost. -/
theorem makeDirectories_spec {ns last : List String} (sound : t.Sound)
    (inside : t.entry? place = some .directory)
    (made : t.makeDirectories place ns = (u, some last)) :
    u.Sound ∧ u.home = t.home ∧ Within t u ∧ Leads u place ns last ∧
      u.entry? last = some .directory := by
  induction ns generalizing t place with
  | nil =>
    obtain ⟨rfl, rfl⟩ : t = u ∧ place = last := by simpa [makeDirectories] using made
    exact ⟨sound, rfl, fun _ _ there => there, .here _, inside⟩
  | cons n ns ih =>
    rw [makeDirectories] at made
    by_cases upwards : n = ".."
    · rw [if_pos upwards] at made
      obtain ⟨sound', home, within, leads, directory⟩ := ih sound (sound.parents _ _ inside) made
      exact ⟨sound', home, within, upwards ▸ .up (within _ _ inside) leads, directory⟩
    · rw [if_neg upwards] at made
      by_cases long : maxName < n.utf8ByteSize
      · rw [if_pos long] at made
        cases made
      · rw [if_neg long] at made
        have short := Nat.not_lt.1 long
        dsimp only at made
        split at made
        · rename_i there
          obtain ⟨sound', home, within, leads, directory⟩ := ih sound there made
          exact ⟨sound', home, within, .down (within _ _ inside) upwards short leads, directory⟩
        · cases made
        · rename_i missing
          have given : place ++ [n] ≠ [] := List.concat_ne_nil _ _
          have fresh : FileTree.entry? (t.put (place ++ [n]) .directory) (place ++ [n]) =
              some .directory := by
            rw [lookup_put given, if_pos rfl]
          have kept : Within t (t.put (place ++ [n]) .directory) := by
            intro q e there
            rw [lookup_put given, if_neg ?_, there]
            rintro rfl
            rw [missing] at there
            cases there
          obtain ⟨sound', home, within, leads, directory⟩ :=
            ih (sound.put inside (by simp [missing]) .directory) fresh made
          exact ⟨sound', home, fun q e there => within q e (kept q e there),
            .down (within _ _ (kept _ _ inside)) upwards short leads, directory⟩

/-! ## Writing and reading -/

/-- A file with the content is at the end of the path, and the path can be walked. -/
structure Holds (t : FileTree) (path : String) (content : List UInt8) : Prop where
  text : hasNul path = false
  ends : ∃ n, (Path.parts path).getLast? = some n ∧ n ≠ "" ∧ n ≠ "."
  leads : Leads t (t.start path) (Path.names path) (t.placeOf path)
  file : t.entry? (t.placeOf path) = some (.file content)

theorem hasNul_eq_false {path : String} (free : ∀ n ∈ Path.names path, hasNul n = false) :
    hasNul path = false := by
  by_contra held
  have member : '\x00' ∈ path.toList := by
    rw [Bool.not_eq_false, hasNul, List.contains_iff_mem] at held
    exact held
  rw [← Text.intercalate_splitChars '/' path.toList] at member
  rcases Text.mem_or_mem_of_mem_intercalate member with slash | ⟨piece, among, inside⟩
  · exact absurd slash (by decide)
  · have part : String.ofList piece ∈ Path.parts path := List.mem_map_of_mem among
    by_cases skipped : String.ofList piece = "" ∨ String.ofList piece = "."
    · have letters : piece = [] ∨ piece = ['.'] := by
        rcases skipped with empty | here
        · exact .inl (by simpa using congrArg String.toList empty)
        · exact .inr (by simpa using congrArg String.toList here)
      rcases letters with rfl | rfl
      · cases inside
      · exact absurd inside (by decide)
    · have name : String.ofList piece ∈ Path.names path :=
        List.mem_filter.2 ⟨part, by simpa using skipped⟩
      have clean := free _ name
      rw [hasNul, String.toList_ofList] at clean
      simp [inside] at clean

/-- Names are those in front and the last part, if that is a name. -/
theorem names_eq_concat {path n : String} (last : (Path.parts path).getLast? = some n)
    (proper : n ≠ "" ∧ n ≠ ".") :
    Path.names path = (Path.names path).dropLast ++ [n] := by
  obtain ⟨front, parts⟩ := List.getLast?_eq_some_iff.1 last
  have names : Path.names path =
      front.filter (fun n => decide (n ≠ "" ∧ n ≠ ".")) ++ [n] := by
    rw [Path.names, parts, List.filter_append, List.filter_cons_of_pos (by simp [proper])]
    rfl
  rw [names, List.dropLast_concat]

/-- A file can be put under a name at a place, once the directories on the way there are made. -/
structure Landing (t : FileTree) (path : String) (w : FileTree) (place : List String)
    (n : String) : Prop where
  made : t.makeDirectories (t.start path) (Path.names path).dropLast = (w, some place)
  last : (Path.parts path).getLast? = some n
  proper : n ≠ "" ∧ n ≠ "."
  below : n ≠ ".."
  short : n.utf8ByteSize ≤ maxName
  clean : ∀ k ∈ (Path.names path).dropLast ++ [n], hasNul k = false
  vacant : w.entry? (place ++ [n]) ≠ some .directory

section

variable {w : FileTree} {path n : String} {content : List UInt8}

/-- Every file that is written lands somewhere. -/
theorem exists_landing (written : t.write path content = (u, true)) :
    ∃ w place n, Landing t path w place n ∧ u = w.put (place ++ [n]) (.file content) := by
  unfold write at written
  dsimp only at written
  split at written
  · cases written
  rename_i free
  split at written
  · cases written
  rename_i w place made
  split at written
  · cases written
  rename_i n last
  split at written
  · cases written
  rename_i accepted
  push Not at accepted
  obtain ⟨given, here, below, clean, short, vacant⟩ := accepted
  refine ⟨w, place, n, ⟨made, last, ⟨given, here⟩, below, short, ?_, vacant⟩,
    (Prod.mk.inj written).1.symm⟩
  intro k member
  rcases List.mem_append.1 member with front | final
  · simpa using fun held => free (List.any_eq_true.2 ⟨k, front, held⟩)
  · rw [List.mem_singleton.1 final]
    simpa using clean

theorem Landing.names (landing : Landing t path w place n) :
    Path.names path = (Path.names path).dropLast ++ [n] :=
  names_eq_concat landing.last landing.proper

theorem Landing.placeOf_eq (landing : Landing t path w place n) (sound : t.Sound) :
    t.placeOf path = place ++ [n] := by
  obtain ⟨-, -, -, leads, -⟩ := makeDirectories_spec sound (sound.start path) landing.made
  rw [placeOf, landing.names, follow_append, ← leads.eq_follow, follow, if_neg landing.below,
    follow]

/-- The file is there after it has landed. -/
theorem Landing.holds (landing : Landing t path w place n) (sound : t.Sound) :
    Holds (w.put (place ++ [n]) (.file content)) path content := by
  obtain ⟨-, home, -, leads, inside⟩ :=
    makeDirectories_spec sound (sound.start path) landing.made
  have nonempty : place ++ [n] ≠ [] := List.concat_ne_nil _ _
  have start : (w.put (place ++ [n]) (.file content)).start path = t.start path := by
    rw [FileTree.start, FileTree.start, ← home]
    rfl
  have there : (w.put (place ++ [n]) (.file content)).placeOf path = place ++ [n] := by
    rw [placeOf, start, ← placeOf, landing.placeOf_eq sound]
  refine ⟨?_, ⟨n, landing.last, landing.proper⟩, ?_, ?_⟩
  · refine hasNul_eq_false ?_
    rw [landing.names]
    exact landing.clean
  · rw [start, there, landing.names]
    refine (leads.concat inside landing.below landing.short).mono ?_
    intro q directory
    have distinct : q ≠ place ++ [n] := by
      rintro rfl
      exact landing.vacant directory
    rw [lookup_put nonempty, if_neg distinct, directory]
  · rw [there, lookup_put nonempty, if_pos rfl]

/-- A file that was written is there; whatever was at other places is still there, and no directory
was replaced. -/
theorem write_spec (sound : t.Sound) (written : t.write path content = (u, true)) :
    u.Sound ∧ u.home = t.home ∧ u.Holds path content ∧
      (∀ q e, q ≠ t.placeOf path → t.entry? q = some e → u.entry? q = some e) ∧
      t.entry? (t.placeOf path) ≠ some .directory := by
  obtain ⟨w, place, n, landing, rfl⟩ := exists_landing written
  obtain ⟨sound', home, within, -, inside⟩ :=
    makeDirectories_spec sound (sound.start path) landing.made
  refine ⟨sound'.put inside landing.vacant _, home, landing.holds sound, ?_, ?_⟩
  · intro q e other there
    rw [landing.placeOf_eq sound] at other
    rw [lookup_put (List.concat_ne_nil _ _), if_neg other]
    exact within q e there
  · rw [landing.placeOf_eq sound]
    exact fun directory => landing.vacant (within _ _ directory)

end

/-- Files at other places stay when one is written. -/
theorem Holds.write {path other : String} {content more : List UInt8} (holds : t.Holds path content)
    (sound : t.Sound) (written : t.write other more = (u, true))
    (apart : t.placeOf other ≠ t.placeOf path) : u.Holds path content := by
  obtain ⟨-, home, -, kept, vacant⟩ := write_spec sound written
  have start : u.start path = t.start path := by
    rw [FileTree.start, FileTree.start, home]
  have landing : u.placeOf path = t.placeOf path := by
    rw [placeOf, placeOf, start]
  refine ⟨holds.text, holds.ends, ?_, ?_⟩
  · rw [start, landing]
    refine holds.leads.mono ?_
    intro q directory
    exact kept q _ (fun same => vacant (same ▸ directory)) directory
  · rw [landing]
    exact kept _ _ (Ne.symm apart) holds.file

/-- The text of a file that is there can be read. -/
theorem Holds.read {path s : String} (holds : t.Holds path s.toUTF8.toList) :
    t.read path = .ok s := by
  obtain ⟨n, last, given, here⟩ := holds.ends
  have nonempty : path ≠ "" := by
    rintro rfl
    have none : Path.parts "" = [""] := by decide
    rw [none] at last
    exact given (Option.some.inj last).symm
  have walked : t.walk (t.start path) (Path.parts path) = .ok (t.placeOf path) := by
    refine holds.leads.walk_eq ?_
    intro k final
    obtain rfl := Option.some.inj (last.symm.trans final)
    exact ⟨given, here⟩
  simp only [FileTree.read, holds.text, if_neg nonempty, walked, holds.file, fromUTF8?_toUTF8,
    bind, Except.bind, pure, Except.pure, Bool.false_eq_true, if_false]

/-- A text that could be written is read again. -/
theorem read_write {path s : String} (sound : t.Sound)
    (written : (t.write path s.toUTF8.toList).2 = true) :
    FileTree.Sound (t.write path s.toUTF8.toList).1 ∧
      FileTree.read (t.write path s.toUTF8.toList).1 path = .ok s := by
  obtain ⟨sound', -, holds, -⟩ := write_spec sound (Prod.ext rfl written)
  exact ⟨sound', holds.read⟩

theorem placeOf_of_home (home : u.home = t.home) : u.placeOf = t.placeOf := by
  funext path
  rw [placeOf, placeOf, FileTree.start, FileTree.start, home]

end FileTree

end RecordSynth
