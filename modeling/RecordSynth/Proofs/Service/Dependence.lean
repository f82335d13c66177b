import Mathlib.Logic.Relation
import RecordSynth.Proofs.Pass.BuiltIn
import RecordSynth.Proofs.Text
/-!
# What service artifacts depend on

Service artifacts see a table through the name of its record type and through the type argument that
its generated key resolves to, and settings through the package, the base types and the presence of a
project. Inputs that agree in these have the same artifacts: `Service.artifacts_agree`. Changes that
keep them are listed by `Table.Immaterial` and `ServiceSettings.Immaterial`, one at a time.
-/

namespace RecordSynth

open Relation (EqvGen)

/-! ## The key argument -/

namespace TypeExpr

/-- Boxing gives a wrapper or changes nothing, and arguments do not matter for which of them. -/
theorem boxed_cases (t : TypeExpr) :
    (∃ w, t.boxed = ofName (.implicit w) ∧ t.base.boxed = ofName (.implicit w)) ∨
      t.boxed = t ∧ t.base.boxed = t.base := by
  have named : t.base.name = t.name := rfl
  unfold boxed
  rw [named]
  split
  · cases QualifiedName.wrapper? t.name.simple.text with
    | none => exact .inr ⟨rfl, rfl⟩
    | some w => exact .inl ⟨w, rfl, rfl⟩
  · exact .inr ⟨rfl, rfl⟩

/-- A boxed type is boxed like the type itself. -/
theorem boxed_base_boxed (t : TypeExpr) : t.boxed.base.boxed = t.base.boxed := by
  obtain ⟨w, wrapped, wrapped'⟩ | ⟨same, -⟩ := t.boxed_cases
  · rw [wrapped, wrapped']
    rfl
  · rw [same]

end TypeExpr

namespace Table

/-- The type argument that the generated key resolves to, if it names a column. -/
def keyArgument? (t : Table) : Option TypeExpr := t.key?.map (·.type.base.boxed)

theorem keyArgument?_eq (t : Table) :
    t.keyArgument? = t.generatedKey.bind fun name =>
      (t.columns.find? fun c => Text.equalIgnoringCase c.name name).map (·.type.base.boxed) := by
  rw [keyArgument?, key?]
  cases t.generatedKey with
  | none => rfl
  | some name =>
    cases found : t.columns.find? fun c => Text.equalIgnoringCase c.name name <;>
      simp [column?, found]

/-! ## Inputs that agree -/

/-- Tables whose record types have one name, and whose generated keys resolve to one type argument
or do not resolve. -/
structure Agree (a b : Table) : Prop where
  record : a.recordType.name = b.recordType.name
  key : a.keyArgument? = b.keyArgument?

theorem agree_equivalence : Equivalence Agree where
  refl _ := ⟨rfl, rfl⟩
  symm agree := ⟨agree.record.symm, agree.key.symm⟩
  trans first second := ⟨first.record.trans second.record, first.key.trans second.key⟩

end Table

/-- Settings with one package and the same base types, and a project in both or in neither. -/
structure ServiceSettings.Agree (s t : ServiceSettings) : Prop where
  project : s.targetProject = none ↔ t.targetProject = none
  package : s.targetPackage = t.targetPackage
  basicService : s.basicService = t.basicService
  basicServiceImpl : s.basicServiceImpl = t.basicServiceImpl

namespace ServiceSettings

theorem agree_equivalence : Equivalence Agree where
  refl _ := ⟨.rfl, rfl, rfl, rfl⟩
  symm agree := ⟨agree.project.symm, agree.package.symm, agree.basicService.symm,
    agree.basicServiceImpl.symm⟩
  trans first second := ⟨first.project.trans second.project, first.package.trans second.package,
    first.basicService.trans second.basicService,
    first.basicServiceImpl.trans second.basicServiceImpl⟩

end ServiceSettings

/-! ## Immaterial changes -/

/-- A change of a column that a key argument does not show. -/
inductive Column.Immaterial (c : Column) : Column → Prop
  | name {name : String} (same : Text.equalIgnoringCase name c.name = true) :
      c.Immaterial { c with name }
  | property (property : String) : c.Immaterial { c with property }
  | arguments (arguments : List TypeExpr) : c.Immaterial { c with type := { c.type with arguments } }
  | boxed : c.Immaterial { c with type := c.type.boxed }

/-- A change of a table that its service artifacts do not show. -/
inductive Table.Immaterial (t : Table) : Table → Prop
  | name (name : String) : t.Immaterial { t with name }
  | clientPackage (clientPackage : Option String) : t.Immaterial { t with clientPackage }
  | recordArguments (arguments : List TypeExpr) :
      t.Immaterial { t with recordType := { t.recordType with arguments } }
  | keyCase {key key' : String} (given : t.generatedKey = some key)
      (same : Text.equalIgnoringCase key' key = true) :
      t.Immaterial { t with generatedKey := some key' }
  | column {before after : List Column} {c c' : Column} (columns : t.columns = before ++ c :: after)
      (change : c.Immaterial c') : t.Immaterial { t with columns := before ++ c' :: after }
  /-- Columns behind one that the generated key names. -/
  | later {key : String} {before after : List Column} {c : Column}
      (given : t.generatedKey = some key) (columns : t.columns = before ++ c :: after)
      (matching : Text.equalIgnoringCase c.name key = true) (after' : List Column) :
      t.Immaterial { t with columns := before ++ c :: after' }
  /-- A column that the generated key does not name. -/
  | unmatched {before after : List Column} {c : Column} (columns : t.columns = before ++ c :: after)
      (other : ∀ key, t.generatedKey = some key → Text.equalIgnoringCase c.name key = false) :
      t.Immaterial { t with columns := before ++ after }

/-- A change of settings that service artifacts do not show. -/
inductive ServiceSettings.Immaterial (s : ServiceSettings) : ServiceSettings → Prop
  | disable (disable : Bool) : s.Immaterial { s with disable }
  | project {project : String} (given : s.targetProject = some project) (project' : String) :
      s.Immaterial { s with targetProject := some project' }

theorem Column.Immaterial.name_eq {c c' : Column} (change : c.Immaterial c') :
    Text.equalIgnoringCase c'.name c.name = true := by
  cases change with
  | name same => exact same
  | property | arguments | boxed => exact Text.equalIgnoringCase_iff.2 rfl

theorem Column.Immaterial.argument_eq {c c' : Column} (change : c.Immaterial c') :
    c'.type.base.boxed = c.type.base.boxed := by
  cases change with
  | name | property | arguments => rfl
  | boxed => exact c.type.boxed_base_boxed

/-- A change that is immaterial keeps what artifacts are made of. -/
theorem Table.Immaterial.agree {a b : Table} (change : a.Immaterial b) : a.Agree b := by
  cases change with
  | name | clientPackage | recordArguments => exact ⟨rfl, rfl⟩
  | @keyCase key key' given same =>
    refine ⟨rfl, ?_⟩
    have tests : ∀ c : Column, Text.equalIgnoringCase c.name key' =
        Text.equalIgnoringCase c.name key := fun c =>
      Text.equalIgnoringCase_congr (Text.equalIgnoringCase_iff.2 rfl) same
    simp only [keyArgument?_eq, given, Option.bind_some, tests]
  | @column before after c c' columns change =>
    refine ⟨rfl, ?_⟩
    rw [keyArgument?_eq, keyArgument?_eq, columns]
    dsimp only
    congr 1
    funext key
    have test : Text.equalIgnoringCase c'.name key = Text.equalIgnoringCase c.name key :=
      Text.equalIgnoringCase_congr change.name_eq (Text.equalIgnoringCase_iff.2 rfl)
    rw [List.find?_append, List.find?_append, List.find?_cons, List.find?_cons, test]
    -- Either a column in front is the first that matches, or the two columns match alike.
    cases before.find? fun c => Text.equalIgnoringCase c.name key with
    | some _ => rfl
    | none =>
      cases Text.equalIgnoringCase c.name key with
      | true => exact congrArg some change.argument_eq.symm
      | false => rfl
  | @later key before after c given columns matching after' =>
    refine ⟨rfl, ?_⟩
    rw [keyArgument?_eq, keyArgument?_eq, columns, given]
    simp [List.find?_append, List.find?_cons, matching]
  | @unmatched before after c columns other =>
    refine ⟨rfl, ?_⟩
    rw [keyArgument?_eq, keyArgument?_eq, columns]
    cases given : a.generatedKey with
    | none => rfl
    | some key => simp [List.find?_append, List.find?_cons, other key given]

theorem ServiceSettings.Immaterial.agree {s t : ServiceSettings} (change : s.Immaterial t) : s.Agree t := by
  cases change with
  | disable => exact ⟨.rfl, rfl, rfl, rfl⟩
  | project given => exact ⟨by simp [given], rfl, rfl, rfl⟩

/-! ## The artifacts -/

namespace Service

variable {a b : Table} {s t : ServiceSettings}

theorem keyType_eq (table : Table) : keyType table = table.keyArgument?.getD keyPlaceholder := by
  rw [keyType, Table.keyArgument?]
  cases table.key? <;> rfl

theorem artifactsIn_eq (agree : a.Agree b) (package : PackagePath) (basic : TypeExpr)
    (basicImpl : Option TypeExpr) :
    artifactsIn package a basic basicImpl = artifactsIn package b basic basicImpl := by
  have record : a.recordType.base = b.recordType.base := congrArg TypeExpr.ofName agree.record
  have key : keyType a = keyType b := by rw [keyType_eq, keyType_eq, agree.key]
  rw [artifactsIn, artifactsIn, record, key]

theorem destination?_eq (agree : s.Agree t) : destination? s = destination? t := by
  have both := agree.project
  rw [destination?, destination?, agree.package]
  cases project : s.targetProject with
  | none => rw [both.1 project]
  | some _ =>
    cases project' : t.targetProject with
    | none =>
      rw [both.2 project'] at project
      cases project
    | some _ => rfl

theorem built_eq (tables : a.Agree b) (settings : s.Agree t) : built a s = built b t := by
  rw [built, built, destination?_eq settings, settings.basicService, settings.basicServiceImpl]
  simp only [artifactsIn_eq tables]

/-- Tables and settings that agree in what artifacts are made of have the same artifacts, and so
have any that come from one another by changes, however many, none of which is material. -/
theorem artifacts_agree {m : Type → Type} [Monad m] [LawfulMonad m] [MonadJournal m]
    (tables : a.Agree b ∨ EqvGen Table.Immaterial a b)
    (settings : s.Agree t ∨ EqvGen ServiceSettings.Immaterial s t) :
    ∃ ds, Gives (artifacts a s : m (List Declaration)) ds ∧
      Gives (artifacts b t : m (List Declaration)) ds := by
  have tables' : a.Agree b := by
    refine tables.elim id ?_
    intro changes
    exact Table.agree_equivalence.eqvGen_iff.1 (changes.mono fun _ _ => Table.Immaterial.agree)
  have settings' : s.Agree t := by
    refine settings.elim id ?_
    intro changes
    exact ServiceSettings.agree_equivalence.eqvGen_iff.1
      (changes.mono fun _ _ => ServiceSettings.Immaterial.agree)
  refine ⟨built a s, gives_artifacts a s, ?_⟩
  rw [built_eq tables' settings']
  exact gives_artifacts b t

/-- A primitive key and the same key boxed, in a table of another name without the other columns. -/
theorem artifacts_agree_boxed :
    let user : TypeExpr := .ofName { scope := [⟨"shop", by decide⟩], simple := ⟨"User", by decide⟩ }
    let int : TypeExpr := .ofName { scope := [], simple := ⟨"int", by decide⟩ }
    let basic : TypeExpr := .ofName { scope := [], simple := ⟨"Basic", by decide⟩ }
    let a : Table :=
      { name := "USER", recordType := user, generatedKey := some "ID"
        columns := [.derive "ID" int, .derive "MANAGER" user] }
    let b : Table :=
      { name := "T_USER", recordType := user, generatedKey := some "id"
        columns := [.derive "ID" int.boxed] }
    let s : ServiceSettings :=
      { targetProject := some "out", targetPackage := some { segments := [⟨"shop", by decide⟩] }
        basicService := some basic }
    let t : ServiceSettings := { s with disable := true, targetProject := some "src/main/java" }
    (artifacts a s : Id (List Declaration)) = artifacts b t ∧
      (artifacts a s : Id (List Declaration)).map (·.name.text) = ["shop.UserService"] := by
  intro user int basic a b s t
  let named : Table := { a with name := "T_USER" }
  let keyed : Table := { named with generatedKey := some "id" }
  let alone : Table := { keyed with columns := [.derive "ID" int] }
  have tables : EqvGen Table.Immaterial a b := by
    have first : a.Immaterial named := .name _
    have second : named.Immaterial keyed := .keyCase rfl (by decide)
    have columns : keyed.columns = [] ++ .derive "ID" int :: [.derive "MANAGER" user] := rfl
    have third : keyed.Immaterial alone := .later rfl columns (by decide) []
    have columns' : alone.columns = [] ++ .derive "ID" int :: [] := rfl
    have last : alone.Immaterial b := .column columns' .boxed
    exact .trans _ _ _ (.rel _ _ first)
      (.trans _ _ _ (.rel _ _ second) (.trans _ _ _ (.rel _ _ third) (.rel _ _ last)))
  have settings : s.Agree t := ⟨by simp [t, s], rfl, rfl, rfl⟩
  obtain ⟨ds, ⟨journal, given⟩, ⟨journal', given'⟩⟩ :=
    artifacts_agree (m := Id) (.inr tables) (.inl settings)
  refine ⟨?_, by decide +kernel⟩
  rw [given, given']
  rfl

end Service

end RecordSynth
