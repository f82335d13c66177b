import RecordSynth.Command
import RecordSynth.Proofs.FileTree
import RecordSynth.Proofs.PackagePath
import RecordSynth.Proofs.Path
/-!
# Where sources lie

The directory of a source is found in two ways: as that of a package, from its segments, and as that
of a declared type, by splitting the text of its package again. Both give the same path, which tells
the type and goes down from its project by plain names only, so nothing that a type or a package is
called leads a file out of the project it is made for.
-/

namespace RecordSynth

/-! ## Packages and the names in them -/

namespace PackagePath

variable (p : PackagePath)

/-- The directory of a package, segment by segment. -/
theorem directory_eq_foldl : p.directory = (p.segments.map (·.text)).foldl Path.join "" := by
  have given : p.segments.map (·.text) ≠ [] := by simpa using p.segments_ne_nil
  rw [Path.foldl_join_plain (Identifier.isPlain_texts p.segments) given, Path.join_empty, directory]

end PackagePath

/-! ## Declarations -/

namespace Declaration

variable (d : Declaration)

theorem parts_sourcePath : Path.parts d.sourcePath = d.sourceNames :=
  Path.parts_join_plain d.isPlain_sourceNames d.sourceNames_ne_nil

/-- The names in the path are the pieces of the text of the package, then that of the file. -/
theorem sourceNames_eq_split :
    d.sourceNames =
      (d.name.packageText?.elim [] (Text.split '.')) ++ [d.name.shortText ++ ".java"] := by
  rw [sourceNames, QualifiedName.packageText?]
  by_cases bare : d.name.scope = []
  · rw [if_pos bare, bare]
    rfl
  · rw [if_neg bare]
    have pieces := (PackagePath.split_eq_iff (p := ⟨d.name.scope, bare⟩)).2 rfl
    exact congrArg (· ++ _) pieces

theorem sourcePath_eq_foldl (front : String) :
    Path.join front d.sourcePath = d.sourceNames.foldl Path.join front :=
  (Path.foldl_join_plain d.isPlain_sourceNames d.sourceNames_ne_nil front).symm

theorem sourcePath_inj {d e : Declaration} : d.sourcePath = e.sourcePath ↔ d.name = e.name := by
  rw [← sourceNames_inj]
  constructor
  · intro same
    rw [← parts_sourcePath, same, parts_sourcePath]
  · intro same
    exact congrArg (Text.join "/") same

end Declaration

/-! ## Places of artifacts -/

namespace Artifact

variable {t : FileTree} {out : String}

/-- An artifact lies below its project, where its name says. -/
theorem placeOf_path (a : Artifact) :
    t.placeOf (a.path out) =
      t.placeOf (Path.join out a.targetProject) ++ a.declaration.sourceNames := by
  have relative := a.declaration.isAbsolute_sourcePath
  have above : ∀ n ∈ a.declaration.sourceNames, n ≠ ".." := fun n member =>
    (a.declaration.isPlain_sourceNames n member).ne_above
  rw [path, FileTree.placeOf, FileTree.placeOf, FileTree.start, FileTree.start,
    Path.isAbsolute_join relative, Path.names_join relative, Declaration.names_sourcePath,
    FileTree.follow_append, FileTree.follow_of_ne_above above]

/-- Artifacts of one project are told apart by their names. -/
theorem placeOf_path_inj {a b : Artifact} (project : a.targetProject = b.targetProject) :
    t.placeOf (a.path out) = t.placeOf (b.path out) ↔ a.declaration.name = b.declaration.name := by
  rw [a.placeOf_path, b.placeOf_path, project, List.append_cancel_left_eq,
    Declaration.sourceNames_inj]

end Artifact

/-- Sources lie where names say. A simple name behind a package is read as the name of a type in
that package, and its source lies in the directory of the package, however the two directories are
found. Declarations have the same source path, and the same names in it, just if they have the same
name. All parts of a source path are plain names, so an artifact lies below its project by these and
no others, and nothing that it is called leads out of there. -/
theorem Declaration.sourcePaths_follow_names :
    (∀ (p : PackagePath) (n : Identifier), ∃ name : QualifiedName,
      QualifiedName.parse (p.qualify n.text) = .ok name ∧ name.packageText? = some p.text ∧
      name.shortText = n.text ∧ p.directory = (p.segments.map (·.text)).foldl Path.join "" ∧
      ∀ d : Declaration, d.name = name →
        d.sourcePath = Path.join p.directory (n.text ++ ".java")) ∧
    (∀ d e : Declaration, (d.sourcePath = e.sourcePath ↔ d.name.text = e.name.text) ∧
      (Path.names d.sourcePath = Path.names e.sourcePath ↔ d.name.text = e.name.text)) ∧
    (∀ d : Declaration, (∀ n ∈ Path.parts d.sourcePath, Path.IsPlain n) ∧
      d.sourcePath = (d.name.packageText?.elim [] (Text.split '.') ++
        [d.name.shortText ++ ".java"]).foldl Path.join "") ∧
    ∀ (a : Artifact) (out : String),
      a.path out =
        (Path.parts a.declaration.sourcePath).foldl Path.join (Path.join out a.targetProject) ∧
      Path.isAbsolute (a.path out) = Path.isAbsolute (Path.join out a.targetProject) ∧
      Path.names (a.path out) =
        Path.names (Path.join out a.targetProject) ++ Path.parts a.declaration.sourcePath ∧
      ∀ t : FileTree, t.placeOf (a.path out) =
        t.placeOf (Path.join out a.targetProject) ++ Path.parts a.declaration.sourcePath := by
  have texts : ∀ n k : QualifiedName, n.text = k.text ↔ n = k := fun n k =>
    ⟨QualifiedName.text_injective, congrArg QualifiedName.text⟩
  refine ⟨?_, ?_, ?_, ?_⟩
  · intro p n
    refine ⟨_, p.parse_qualify n, if_neg p.segments_ne_nil, String.append_empty,
      p.directory_eq_foldl, ?_⟩
    intro d named
    have file : d.sourceNames = p.segments.map (·.text) ++ [n.text ++ ".java"] := by
      rw [sourceNames, named]
      simp [QualifiedName.shortText, QualifiedName.brackets]
    rw [← Path.join_empty d.sourcePath, d.sourcePath_eq_foldl, file, List.foldl_append,
      p.directory_eq_foldl]
    rfl
  · intro d e
    rw [texts, sourcePath_inj, names_sourcePath, names_sourcePath, sourceNames_inj]
    exact ⟨Iff.rfl, Iff.rfl⟩
  · intro d
    rw [parts_sourcePath, ← sourceNames_eq_split, ← d.sourcePath_eq_foldl, Path.join_empty]
    exact ⟨d.isPlain_sourceNames, rfl⟩
  · intro a out
    have relative := a.declaration.isAbsolute_sourcePath
    rw [parts_sourcePath]
    refine ⟨a.declaration.sourcePath_eq_foldl _, Path.isAbsolute_join relative, ?_, ?_⟩
    · rw [Artifact.path, Path.names_join relative, names_sourcePath]
    · intro t
      exact a.placeOf_path

/-- The source of a type in a package, for a project that lies beside the directory of the
output. -/
theorem Declaration.sourcePaths_follow_names_beside :
    let p : PackagePath := { segments := [⟨"com", by decide⟩, ⟨"x", by decide⟩] }
    let user : Identifier := ⟨"User", by decide⟩
    let d : Declaration := { name := { scope := p.segments, simple := user }, kind := .classType }
    let a : Artifact := { declaration := d, targetProject := "../gen" }
    let t : FileTree := { home := ["home", "me"] }
    QualifiedName.parse (p.qualify "User") = .ok d.name ∧
      d.sourcePath = Path.join p.directory "User.java" ∧ Path.IsPlain "x" ∧
      a.path "out" = "out/../gen/com/x/User.java" ∧
      t.placeOf (a.path "out") = ["home", "me", "gen"] ++ ["com", "x", "User.java"] := by
  intro p user d a t
  have read : QualifiedName.parse (p.qualify "User") = .ok d.name := by decide
  have parts : Path.parts d.sourcePath = ["com", "x", "User.java"] := by decide
  obtain ⟨packages, -, plain, below⟩ := sourcePaths_follow_names
  obtain ⟨name, found, -, -, -, lies⟩ := packages p user
  obtain ⟨path, -, -, place⟩ := below a "out"
  refine ⟨read, lies d (Except.ok.inj (read.symm.trans found)), ?_, ?_, ?_⟩
  · exact (plain d).1 "x" (by rw [parts]; decide)
  · rw [path, parts]
    decide
  · rw [place, parts]
    decide

end RecordSynth
