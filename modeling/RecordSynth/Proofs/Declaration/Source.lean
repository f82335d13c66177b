import RecordSynth.Declaration.Source
import RecordSynth.Proofs.Declaration.Edits
/-!
# Source files and their imports

A set of imports is what a history of additions and removals leaves, and a source file shows its
names in ascending order, so of the history nothing matters but which names it leaves. No other part
of a file depends on imports. Files have the imports of their root alone, so what only a nested
declaration records has no line.
-/

namespace RecordSynth

/-! ## Bodies without imports -/

namespace Declaration

mutual

/-- The declaration without imports, its own and those of nested declarations. -/
def withoutImports : Declaration → Declaration
  | d@⟨_, _, _, _, _, _, _, _, _, nested⟩ =>
    { d with imports := {}, nested := withoutImportsAll nested }

/-- Nested declarations without imports. -/
def withoutImportsAll : List Declaration → List Declaration
  | [] => []
  | d :: ds => d.withoutImports :: withoutImportsAll ds

end

end Declaration

namespace Source

open Declaration (withoutImports withoutImportsAll)

mutual

/-- No part of a body depends on imports. -/
theorem body_withoutImports (depth : Nat) (d : Declaration) :
    body depth d.withoutImports = body depth d := by
  match d with
  | ⟨_, _, _, _, _, _, _, _, _, nested⟩ =>
    -- The header and the members are the same on both sides; only nested bodies need an argument.
    rw [withoutImports, body, body, bodies_withoutImportsAll (depth + 1) nested]
    rfl

theorem bodies_withoutImportsAll (depth : Nat) (ds : List Declaration) :
    bodies depth (withoutImportsAll ds) = bodies depth ds := by
  match ds with
  | [] => rfl
  | d :: ds =>
    rw [withoutImportsAll, bodies, bodies, body_withoutImports depth d,
      bodies_withoutImportsAll depth ds]

end

/-! ## The lines in front of a body -/

/-- The line of the package, if there is one, and an empty line. -/
def packageLines (d : Declaration) : List String :=
  match d.name.packageText? with
  | none => []
  | some p => ["package " ++ p ++ ";", ""]

/-- The line that imports a name. -/
def importLine (q : String) : String := "import " ++ q ++ ";"

/-- A line for each name and an empty line, unless there are no names. -/
def importLines (names : List String) : List String :=
  if names = [] then [] else names.map importLine ++ [""]

theorem lines_append (depth : Nat) (texts others : List String) :
    lines depth (texts ++ others) = lines depth texts ++ lines depth others := by
  rw [lines, List.map_append, String.join_append, lines, lines]

theorem line_zero (text : String) : line 0 text = text ++ "\n" := by
  rw [line, indent]
  exact congrArg (· ++ "\n") String.empty_append

theorem lines_zero_cons (text : String) (texts : List String) :
    lines 0 (text :: texts) = text ++ "\n" ++ lines 0 texts := by
  rw [lines, List.map_cons, String.join_cons, line_zero, lines]

theorem preamble_eq (d : Declaration) :
    preamble d = lines 0 (packageLines d ++ importLines (importNames d)) := by
  rw [preamble, lines_append]
  congr 1
  · unfold packageLines
    cases d.name.packageText? with
    | none => rfl
    | some p =>
      have ends : lines 0 [""] = "\n" := by decide
      have stop : ";\n\n" = ";" ++ "\n" ++ "\n" := by decide
      rw [lines_zero_cons, ends, stop]
      simp only [String.append_assoc]
  · unfold importLines
    cases importNames d with
    | nil => rfl
    | cons q names =>
      have ends : lines 0 [""] = "\n" := by decide
      rw [if_neg (List.cons_ne_nil q names), lines_append, ends]
      rfl

theorem source_eq (d : Declaration) :
    d.source =
      lines 0 (packageLines d ++ importLines (importNames d)) ++ body 0 d.withoutImports := by
  rw [Declaration.source, preamble_eq, body_withoutImports]

theorem perm_importNames (d : Declaration) : (importNames d).Perm d.imports.names :=
  List.mergeSort_perm _ _

theorem sorted_importNames {d : Declaration} (distinct : d.imports.names.Nodup) :
    (importNames d).SortedLT := by
  have sorted : (importNames d).SortedLE := List.sortedLE_mergeSort
  exact sorted.sortedLT_of_nodup ((perm_importNames d).nodup_iff.2 distinct)

end Source

/-! ## Files and the histories of their imports -/

namespace Declaration

open TypeSet (Change Recorded)

/-- The declaration with the imports that a history leaves, instead of its own. -/
def importing (d : Declaration) (history : List Change) : Declaration :=
  { d with imports := .after history }

/-- To add what types ask for, one after another, is to make history longer. -/
theorem foldl_addImport_importing (d : Declaration) (history : List Change) (ts : List TypeExpr) :
    ts.foldl addImport (d.importing history) =
      d.importing (history ++ (ts.flatMap (·.importsFrom d.name.scope)).map .insert) := by
  rw [foldl_addImport, importing, importing, TypeSet.after_append_inserts]

theorem mem_importNames_importing {d : Declaration} {history : List Change} {q : String} :
    q ∈ Source.importNames (d.importing history) ↔ Recorded history q := by
  rw [(Source.perm_importNames _).mem_iff]
  exact TypeSet.mem_names_after

theorem sorted_importNames_importing (d : Declaration) (history : List Change) :
    (Source.importNames (d.importing history)).SortedLT :=
  Source.sorted_importNames (TypeSet.nodup_names_after history)

theorem source_importing (d : Declaration) (history : List Change) :
    (d.importing history).source = Source.lines 0 (Source.packageLines d ++
      Source.importLines (Source.importNames (d.importing history))) ++
        Source.body 0 d.withoutImports := by
  have same : (d.importing history).withoutImports = d.withoutImports := by
    cases d
    rfl
  rw [Source.source_eq, same]
  rfl

/-- There is one ascending list of the names that are left, so the file does not tell histories
apart that leave the same. -/
theorem source_importing_eq (d : Declaration) {history other : List Change}
    (same : ∀ q, Recorded other q ↔ Recorded history q) :
    (d.importing other).source = (d.importing history).source := by
  have names : Source.importNames (d.importing other) =
      Source.importNames (d.importing history) := by
    refine (d.sorted_importNames_importing other).eq_of_mem_iff
      (d.sorted_importNames_importing history) fun q => ?_
    rw [mem_importNames_importing, mem_importNames_importing, same]
  rw [source_importing, source_importing, names]

/-- Whatever the history of the imports, the file of a declaration is the line of its package, a
line for each name that the history leaves, in ascending order, and a body that depends on no
imports, its own or nested. So histories that leave the same names give the same file, and imports
may be added in any order. -/
theorem source_of_history (d : Declaration) (history : List Change) :
    (∃ names : List String, names.Pairwise (· < ·) ∧ (∀ q, q ∈ names ↔ Recorded history q) ∧
      (d.importing history).source =
        Source.lines 0 (Source.packageLines d ++ Source.importLines names) ++
          Source.body 0 d.withoutImports) ∧
    (∀ depth e, e.withoutImports = d.withoutImports → Source.body depth e = Source.body depth d) ∧
    (∀ other, (∀ q, Recorded other q ↔ Recorded history q) →
      (d.importing other).source = (d.importing history).source) ∧
    ∀ ts ts' : List TypeExpr, ts.Perm ts' →
      (ts.foldl addImport (d.importing history)).source =
        (ts'.foldl addImport (d.importing history)).source := by
  refine ⟨?_, ?_, ?_, ?_⟩
  · exact ⟨Source.importNames (d.importing history),
      (d.sorted_importNames_importing history).pairwise, fun q => mem_importNames_importing,
      d.source_importing history⟩
  · intro depth e equal
    rw [← Source.body_withoutImports depth e, equal, Source.body_withoutImports]
  · intro other same
    exact d.source_importing_eq same
  · intro ts ts' order
    rw [foldl_addImport_importing, foldl_addImport_importing]
    refine d.source_importing_eq fun q => ?_
    rw [TypeSet.recorded_append_inserts, TypeSet.recorded_append_inserts]
    simp only [(order.flatMap_right _).mem_iff]

/-- A removal undoes the addition before it, and neither of two orders of additions shows. -/
theorem source_of_history_user :
    let named := fun (scope : List Identifier) (simple : Identifier) =>
      TypeExpr.ofName { scope, simple }
    let a : List Identifier := [⟨"a", by decide⟩]
    let user := named a ⟨"User", by decide⟩
    let item := named [⟨"b", by decide⟩] ⟨"Item", by decide⟩
    let tag := named [⟨"c", by decide⟩] ⟨"Tag", by decide⟩
    let d : Declaration := ofType .classType user
    let early : List Change := [.insert tag, .erase "c.Tag", .insert item]
    (d.importing early).source = (d.importing [.insert item]).source ∧
      ([tag, item, user].foldl addImport (d.importing early)).source =
        ([item, user, tag].foldl addImport (d.importing early)).source ∧
      (d.importing early).source =
        "package a;\n\nimport b.Item;\n\nclass User \x7b\n\x7d\n" := by
  intro named a user item tag d early
  obtain ⟨-, -, same, -⟩ := d.source_of_history [.insert item]
  obtain ⟨-, -, -, order⟩ := d.source_of_history early
  refine ⟨same early fun q => ?_, order _ _ ?_, by decide +kernel⟩
  · have left : TypeSet.after early = TypeSet.after [.insert item] := by decide
    rw [← TypeSet.mem_names_after, left, TypeSet.mem_names_after]
  · exact (List.perm_append_comm : ([tag] ++ [item, user]).Perm ([item, user] ++ [tag]))

end Declaration

/-! ## Imports of nested declarations -/

namespace Source

theorem split_lines_append {texts : List String} (single : ∀ t ∈ texts, '\n' ∉ t.toList)
    (s : String) : Text.split '\n' (lines 0 texts ++ s) = texts ++ Text.split '\n' s := by
  induction texts with
  | nil => exact congrArg _ String.empty_append
  | cons t texts ih =>
    have first : (lines 0 (t :: texts) ++ s).toList =
        t.toList ++ '\n' :: (lines 0 texts ++ s).toList := by
      rw [lines_zero_cons]
      simp
    have others := ih fun t member => single t (List.mem_cons_of_mem _ member)
    rw [Text.split, first, Text.splitChars_append_cons (single t List.mem_cons_self), List.map_cons,
      String.ofList_toList, ← Text.split, others]
    rfl

/-- The text of a package has no blanks, so no ends of lines. -/
theorem newline_not_mem_dotted (segments : List Identifier) :
    '\n' ∉ (QualifiedName.dotted segments).toList := by
  intro member
  rw [QualifiedName.toList_dotted] at member
  rcases Text.mem_or_mem_of_mem_intercalate member with dot | ⟨piece, among, inside⟩
  · exact absurd dot (by decide)
  · obtain ⟨a, -, rfl⟩ := List.mem_map.1 among
    exact absurd (Identifier.isRest_of_mem a.accepts_text inside) (by decide)

theorem single_packageLines (d : Declaration) : ∀ t ∈ packageLines d, '\n' ∉ t.toList := by
  unfold packageLines QualifiedName.packageText?
  split
  · simp
  · rename_i p given
    split at given
    · cases given
    · obtain rfl := Option.some.inj given
      simp [newline_not_mem_dotted]

theorem single_importLines {names : List String} (single : ∀ q ∈ names, '\n' ∉ q.toList) :
    ∀ t ∈ importLines names, '\n' ∉ t.toList := by
  unfold importLines
  split
  · simp
  · intro t member
    rcases List.mem_append.1 member with line | last
    · obtain ⟨q, among, rfl⟩ := List.mem_map.1 line
      simp [importLine, single q among]
    · rw [List.mem_singleton.1 last]
      simp

theorem importLine_injective : Function.Injective importLine := by
  intro q r same
  unfold importLine at same
  simpa using same

theorem head?_importLine (q : String) : (importLine q).toList.head? = some 'i' := by
  simp [importLine]

theorem importLine_mem_importLines {names : List String} {q : String} :
    importLine q ∈ importLines names ↔ q ∈ names := by
  have solid : importLine q ≠ "" := by
    intro empty
    have first := head?_importLine q
    rw [empty] at first
    cases first
  unfold importLines
  split
  · rename_i none
    simp [none]
  · simp [solid, importLine_injective.eq_iff]

theorem importLine_not_mem_packageLines (d : Declaration) (q : String) :
    importLine q ∉ packageLines d := by
  have first := head?_importLine q
  unfold packageLines
  split
  · exact List.not_mem_nil
  · intro member
    simp only [List.mem_cons, List.not_mem_nil, or_false] at member
    rcases member with same | same
    · rw [same] at first
      simp at first
    · rw [same] at first
      cases first

end Source

namespace Declaration

/-- Some line of the file imports the name. -/
def ShowsImport (d : Declaration) (q : String) : Prop :=
  Source.importLine q ∈ Text.split '\n' d.source

/-- Some line of the body reads as if it imported the name. -/
def Mimics (d : Declaration) (q : String) : Prop :=
  Source.importLine q ∈ Text.split '\n' (Source.body 0 d)

/-- Lines of imports come from the imports of the root. -/
theorem showsImport_iff {d : Declaration} {q : String} :
    d.ShowsImport q ↔ q ∈ d.imports.names ∨ d.Mimics q := by
  have single : ∀ n ∈ Source.importNames d, '\n' ∉ n.toList := by
    intro n member
    rw [(Source.perm_importNames d).mem_iff] at member
    obtain ⟨t, -, rfl⟩ := List.mem_map.1 member
    intro inside
    exact absurd (QualifiedName.isBlank_of_mem_text inside) (by decide)
  -- None of the lines in front of the body has an end of line in it, so splitting gives them back.
  have front : ∀ t ∈ Source.packageLines d ++ Source.importLines (Source.importNames d),
      '\n' ∉ t.toList :=
    List.forall_mem_append.2 ⟨Source.single_packageLines d, Source.single_importLines single⟩
  rw [ShowsImport, source, Source.preamble_eq, Source.split_lines_append front, List.mem_append,
    List.mem_append, or_iff_right (Source.importLine_not_mem_packageLines d q),
    Source.importLine_mem_importLines, (Source.perm_importNames d).mem_iff, Mimics]

/-- The name of every type that some declaration of the tree imports from another package than the
root's has the property. -/
def ForeignImports (d : Declaration) (P : String → Prop) : Prop :=
  d.Throughout fun x => ∀ t ∈ x.imports.types, t.name.scope ≠ d.name.scope → P t.name.text

/-- A file has lines for the imports of its root and for no others, so it is the file of the tree
without all nested imports. The types that the tree imports from other packages have their lines
just if the root records them too, but for lines of the body that happen to read like imports. -/
theorem foreign_imports_shown_iff (d : Declaration) :
    (d.ForeignImports d.ShowsImport ↔ d.ForeignImports fun q => q ∈ d.imports.names ∨ d.Mimics q) ∧
    (∀ q, d.ShowsImport q ↔ q ∈ d.imports.names ∨ d.Mimics q) ∧
    d.source = { d.withoutImports with imports := d.imports }.source := by
  refine ⟨?_, fun q => showsImport_iff, ?_⟩
  · unfold ForeignImports
    simp only [showsImport_iff]
  · have front :
        Source.preamble { d.withoutImports with imports := d.imports } = Source.preamble d := by
      cases d
      rfl
    have behind : Source.body 0 { d.withoutImports with imports := d.imports } =
        Source.body 0 d.withoutImports := by
      cases d
      rfl
    rw [source, source, front, behind, Source.body_withoutImports]

/-- The import of a nested class has no line, though its field goes by the short name. -/
theorem foreign_imports_shown_iff_inner :
    let a : Identifier := ⟨"a", by decide⟩
    let outer : Identifier := ⟨"Outer", by decide⟩
    let t := TypeExpr.ofName { scope := [⟨"b", by decide⟩], simple := ⟨"T", by decide⟩ }
    let nested := TypeExpr.ofName { scope := [a, outer], simple := ⟨"Inner", by decide⟩ }
    let inner := ((ofType .classType nested).addImport t).addField { name := "item", type := t }
    let d := (ofType .classType (.ofName { scope := [a], simple := outer })).addNested inner
    ¬ d.ForeignImports d.ShowsImport ∧ d.source = "package a;\n\nclass Outer \x7b\n" ++
      "    class Inner \x7b\n        private T item;\n    \x7d\n\x7d\n" := by
  intro a outer t nested inner d
  refine ⟨?_, by decide +kernel⟩
  intro shown
  have recorded := d.foreign_imports_shown_iff.1.1 shown [0] inner rfl t (by decide) (by decide)
  rcases recorded with root | line
  · cases root
  · revert line
    unfold Mimics
    decide +kernel

end Declaration

end RecordSynth
