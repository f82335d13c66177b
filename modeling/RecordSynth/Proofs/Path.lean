import RecordSynth.Declaration
import RecordSynth.Path
import RecordSynth.Proofs.QualifiedName
/-!
# Where paths lead

Joining keeps the names of both paths, so a source file is found below its project by the names of
its package and its own. These are plain names: a source path leads neither upwards nor to the root,
and declarations with the same source path have the same name.
-/

namespace RecordSynth

namespace Path

/-! ## Joining -/

theorem parts_append_slash (p q : String) : parts (p ++ "/" ++ q) = parts p ++ parts q := by
  have slash : "/".toList = ['/'] := by decide
  simp only [parts, Text.split, Text.splitChars_eq_splitOn, String.toList_append, slash,
    List.append_assoc, List.singleton_append, List.splitOn_append_cons_self, List.map_append]

theorem names_append_slash (p q : String) : names (p ++ "/" ++ q) = names p ++ names q := by
  rw [names, parts_append_slash, List.filter_append]
  rfl

theorem names_empty : names "" = [] := by decide

theorem join_empty (q : String) : join "" q = q := by
  rw [join, if_pos (.inr rfl)]

/-- Joined paths have a slash between them, which the first may bring along. -/
theorem exists_join {p q : String} (given : p ≠ "") (relative : isAbsolute q = false) :
    ∃ front, join p q = front ++ "/" ++ q ∧ names front = names p := by
  have other : ¬ (isAbsolute q = true ∨ p = "") := by simp [given, relative]
  rw [join, if_neg other]
  by_cases closed : p.toList.getLast? = some '/'
  · obtain ⟨front, letters⟩ := List.getLast?_eq_some_iff.1 closed
    have whole : p = String.ofList front ++ "/" := by
      rw [← String.toList_inj, letters, String.toList_append, String.toList_ofList]
      rfl
    refine ⟨String.ofList front, ?_, ?_⟩
    · rw [if_pos closed, ← whole]
    · have last := names_append_slash (String.ofList front) ""
      rw [String.append_empty, ← whole, names_empty, List.append_nil] at last
      exact last.symm
  · exact ⟨p, by rw [if_neg closed], rfl⟩

theorem isAbsolute_append {p : String} (given : p ≠ "") (q : String) :
    isAbsolute (p ++ q) = isAbsolute p := by
  cases letters : p.toList with
  | nil => exact absurd (String.toList_eq_nil_iff.1 letters) given
  | cons c r => simp [isAbsolute, String.toList_append, letters]

/-- What a path has in front of whatever relative path is joined to it. -/
theorem exists_front (p : String) :
    ∃ front, ∀ q, isAbsolute q = false → join p q = front ++ q := by
  by_cases given : p = ""
  · refine ⟨"", fun q _ => ?_⟩
    rw [given, join_empty, String.empty_append]
  · have other : ∀ q, isAbsolute q = false → ¬ (isAbsolute q = true ∨ p = "") := by
      intro q relative
      simp [given, relative]
    by_cases closed : p.toList.getLast? = some '/'
    · refine ⟨p, fun q relative => ?_⟩
      rw [join, if_neg (other q relative), if_pos closed]
    · refine ⟨p ++ "/", fun q relative => ?_⟩
      rw [join, if_neg (other q relative), if_neg closed]

section

variable {p q : String} (relative : isAbsolute q = false)
include relative

theorem names_join : names (join p q) = names p ++ names q := by
  by_cases given : p = ""
  · rw [given, join_empty, names_empty, List.nil_append]
  · obtain ⟨front, joined, same⟩ := exists_join given relative
    rw [joined, names_append_slash, same]

theorem isAbsolute_join : isAbsolute (join p q) = isAbsolute p := by
  by_cases given : p = ""
  · rw [given, join_empty, relative]
    decide
  · have other : ¬ (isAbsolute q = true ∨ p = "") := by simp [given, relative]
    rw [join, if_neg other]
    split
    · exact isAbsolute_append given q
    · rw [String.append_assoc, isAbsolute_append given]

end

/-! ## Plain names -/

/-- Names that stand for themselves in any path. -/
structure IsPlain (n : String) : Prop where
  ne_empty : n ≠ ""
  ne_here : n ≠ "."
  ne_above : n ≠ ".."
  slash_not_mem : '/' ∉ n.toList

theorem isPlain_of_isStart {n : String} {c : Char} {r : List Char} (letters : n.toList = c :: r)
    (start : Identifier.isStart c = true) (free : '/' ∉ r) : IsPlain n := by
  have dotted : c ≠ '.' := by
    rintro rfl
    exact absurd start (by decide)
  refine ⟨?_, ?_, ?_, ?_⟩
  · rintro rfl
    cases letters
  · rintro rfl
    exact dotted (List.cons.inj letters).1.symm
  · rintro rfl
    exact dotted (List.cons.inj letters).1.symm
  · rw [letters]
    intro member
    rcases List.mem_cons.1 member with rfl | later
    · exact absurd start (by decide)
    · exact free later

/-- An absolute path starts with an empty part. -/
theorem empty_mem_parts {p : String} (absolute : isAbsolute p = true) : "" ∈ parts p := by
  cases letters : p.toList with
  | nil => simp [isAbsolute, letters] at absolute
  | cons c r =>
    simp only [isAbsolute, letters, List.head?_cons, beq_iff_eq, Option.some.injEq] at absolute
    rw [parts, Text.split, letters, Text.splitChars, if_pos absolute]
    exact List.mem_cons_self

theorem parts_join_plain {ns : List String} (plain : ∀ n ∈ ns, IsPlain n) (given : ns ≠ []) :
    parts (Text.join "/" ns) = ns := by
  have slash : "/".toList = ['/'] := by decide
  have pieces : Text.splitChars '/' (['/'].intercalate (ns.map String.toList)) =
      ns.map String.toList := by
    refine Text.splitChars_intercalate ?_ (by simpa using given)
    intro piece among
    obtain ⟨n, member, rfl⟩ := List.mem_map.1 among
    exact (plain n member).slash_not_mem
  rw [parts, Text.split, Text.join, String.toList_intercalate, slash, pieces, List.map_map]
  simp [Function.comp_def]

theorem names_join_plain {ns : List String} (plain : ∀ n ∈ ns, IsPlain n) (given : ns ≠ []) :
    names (Text.join "/" ns) = ns := by
  rw [names, parts_join_plain plain given, List.filter_eq_self]
  intro n member
  simp [(plain n member).ne_empty, (plain n member).ne_here]

theorem isAbsolute_join_plain {ns : List String} (plain : ∀ n ∈ ns, IsPlain n) (given : ns ≠ []) :
    isAbsolute (Text.join "/" ns) = false := by
  by_contra absolute
  have member := empty_mem_parts (eq_true_of_ne_false absolute)
  rw [parts_join_plain plain given] at member
  exact (plain "" member).ne_empty rfl

theorem IsPlain.relative {n : String} (plain : IsPlain n) : isAbsolute n = false := by
  have all : ∀ k ∈ [n], IsPlain k := List.forall_mem_singleton.2 plain
  exact isAbsolute_join_plain all (List.cons_ne_nil n [])

/-- A plain name and what follows it may be joined to a path at once or one after the other. -/
theorem join_join_plain {n q : String} (plain : IsPlain n) (relative : isAbsolute q = false)
    (p : String) : join (join p n) q = join p (n ++ "/" ++ q) := by
  obtain ⟨front, behind⟩ := exists_front p
  have letters : n.toList ≠ [] := by simpa using plain.ne_empty
  have whole : isAbsolute (n ++ "/" ++ q) = false := by
    rw [String.append_assoc, isAbsolute_append plain.ne_empty, plain.relative]
  have given : ¬ (isAbsolute q = true ∨ front ++ n = "") := by
    simp [relative, plain.ne_empty]
  have last : (front ++ n).toList.getLast? ≠ some '/' := by
    rw [String.toList_append, List.getLast?_append_of_ne_nil _ letters]
    exact fun slash => plain.slash_not_mem (List.mem_of_getLast? slash)
  rw [behind n plain.relative, behind _ whole, join, if_neg given, if_neg last]
  simp [String.append_assoc]

/-- Plain names joined to a path one after the other. -/
theorem foldl_join_plain {ns : List String} (plain : ∀ n ∈ ns, IsPlain n) (given : ns ≠ [])
    (p : String) : ns.foldl join p = join p (Text.join "/" ns) := by
  induction ns generalizing p with
  | nil => exact absurd rfl given
  | cons n ns ih =>
    obtain ⟨first, others⟩ := List.forall_mem_cons.1 plain
    cases ns with
    | nil => rw [List.foldl_cons, List.foldl_nil, Text.join, String.intercalate_singleton]
    | cons k ks =>
      have relative := isAbsolute_join_plain others (List.cons_ne_nil k ks)
      have longer : Text.join "/" (n :: k :: ks) = n ++ "/" ++ Text.join "/" (k :: ks) :=
        String.intercalate_cons_cons
      rw [List.foldl_cons, ih others (List.cons_ne_nil k ks), join_join_plain first relative,
        longer]

end Path

/-! ## Source paths -/

namespace Identifier

theorem slash_not_mem (a : Identifier) : '/' ∉ a.text.toList := by
  intro member
  have rest := isRest_of_mem a.accepts_text member
  revert rest
  decide

theorem exists_start (a : Identifier) :
    ∃ c r, a.text.toList = c :: r ∧ isStart c = true ∧ '/' ∉ r := by
  have accepted := a.accepts_text
  have free := a.slash_not_mem
  cases letters : a.text.toList with
  | nil => exact absurd letters a.toList_ne_nil
  | cons c r =>
    rw [letters, accepts, Bool.and_eq_true] at accepted
    rw [letters] at free
    exact ⟨c, r, rfl, accepted.1, fun later => free (List.mem_cons_of_mem c later)⟩

theorem isPlain_text (a : Identifier) : Path.IsPlain a.text := by
  obtain ⟨c, r, letters, start, free⟩ := a.exists_start
  exact Path.isPlain_of_isStart letters start free

theorem isPlain_texts (as : List Identifier) : ∀ n ∈ as.map (·.text), Path.IsPlain n := by
  intro n member
  obtain ⟨a, -, rfl⟩ := List.mem_map.1 member
  exact a.isPlain_text

theorem map_text_injective {as bs : List Identifier}
    (same : as.map (·.text) = bs.map (·.text)) : as = bs := by
  have texts := congrArg (fun l => QualifiedName.identifiers? (l.map String.toList)) same
  simp only [List.map_map, Function.comp_def] at texts
  rw [QualifiedName.identifiers?_texts, QualifiedName.identifiers?_texts] at texts
  exact Option.some.inj texts

end Identifier

namespace Declaration

/-- The names in the path of the source file: those of the package, then that of the file. -/
def sourceNames (d : Declaration) : List String :=
  d.name.scope.map (·.text) ++ [d.name.shortText ++ ".java"]

variable (d : Declaration)

theorem isPlain_sourceNames : ∀ n ∈ d.sourceNames, Path.IsPlain n := by
  intro n member
  rcases List.mem_append.1 member with segment | file
  · exact Identifier.isPlain_texts _ n segment
  · obtain ⟨c, r, letters, start, free⟩ := d.name.simple.exists_start
    rw [List.mem_singleton.1 file]
    refine Path.isPlain_of_isStart (c := c)
      (r := r ++ QualifiedName.brackets d.name.rank ++ ".java".toList) ?_ start ?_
    · simp [QualifiedName.shortText, String.toList_append, letters]
    · rw [List.mem_append, List.mem_append]
      rintro ((word | bracket) | ending)
      · exact free word
      · rcases QualifiedName.mem_brackets bracket with slash | slash <;> cases slash
      · exact absurd ending (by decide)

theorem sourceNames_ne_nil : d.sourceNames ≠ [] := List.concat_ne_nil _ _

theorem names_sourcePath : Path.names d.sourcePath = d.sourceNames :=
  Path.names_join_plain d.isPlain_sourceNames d.sourceNames_ne_nil

theorem isAbsolute_sourcePath : Path.isAbsolute d.sourcePath = false :=
  Path.isAbsolute_join_plain d.isPlain_sourceNames d.sourceNames_ne_nil

/-- Declarations with the same source path have the same name. -/
theorem sourceNames_inj {d e : Declaration} : d.sourceNames = e.sourceNames ↔ d.name = e.name := by
  constructor
  · intro same
    obtain ⟨scopes, files⟩ := List.append_inj' same rfl
    have short : d.name.shortText = e.name.shortText :=
      (String.append_left_inj ".java").1 (List.singleton_inj.1 files)
    have bare := QualifiedName.unqualified_eq_iff.2 short
    have scope := Identifier.map_text_injective scopes
    have simple := congrArg QualifiedName.simple bare
    have rank := congrArg QualifiedName.rank bare
    exact QualifiedName.mk.injEq .. ▸ ⟨scope, simple, rank⟩
  · intro same
    rw [sourceNames, sourceNames, same]

end Declaration

end RecordSynth
