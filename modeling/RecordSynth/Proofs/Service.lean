import RecordSynth.Proofs.Declaration.Imports
import RecordSynth.Proofs.PackagePath
import RecordSynth.Proofs.Pass.BuiltIn
/-!
# Service artifacts in full

The service interface of a table and the class behind it, field by field, and what is known of the
base types they extend: settings that were read from properties give names without type arguments.
-/

namespace RecordSynth

namespace Service

/-! ## The artifacts -/

/-- The service interface of a name. -/
def interfaceNamed (name : QualifiedName) (record key basic : TypeExpr) : Declaration where
  name := name
  kind := .interfaceType
  visibility := .publicAccess
  superInterfaces := ⟨[basicOf basic record key]⟩
  imports := .ofNames (([basic, record, key]).flatMap (·.foreignNames name.scope))

/-- The class of a name that implements the service interface of another. -/
def implementationNamed (name service : QualifiedName) (record key basic : TypeExpr) :
    Declaration where
  name := name
  kind := .classType
  visibility := .publicAccess
  superType := some (basicOf basic record key)
  superInterfaces := ⟨[.ofName service.unqualified]⟩
  imports := .ofNames (([annotationType, basic, record, key, .ofName service]).flatMap
    (·.foreignNames name.scope))
  annotations := ["@Service"]

/-- A record name that is not that of an array makes a name with any suffix. -/
theorem nameIn_eq (package : PackagePath) (record : QualifiedName) (suffix : Identifier) :
    nameIn package record suffix =
      if record.rank = 0 then .ok { scope := package.segments, simple := record.simple ++ suffix }
      else .error (.invalidType (package.qualify (record.shortText ++ suffix.text))) := by
  rw [nameIn]
  split
  · rename_i flat
    have spelled : record.shortText ++ suffix.text = (record.simple ++ suffix).text := by
      rw [QualifiedName.shortText, flat, Identifier.text_append]
      exact congrArg (· ++ suffix.text) String.append_empty
    rw [spelled, PackagePath.parse_qualify]
  · rename_i array
    exact package.parse_qualify_array array suffix

theorem interfaceOf_eq (package : PackagePath) (record key basic : TypeExpr) :
    interfaceOf package record key basic =
      (nameIn package record.name ⟨"Service", by decide⟩).map
        fun name => interfaceNamed name record key basic := by
  unfold interfaceOf
  cases nameIn package record.name ⟨"Service", by decide⟩ with
  | error e => rfl
  | ok name =>
    simp only [Except.map, bind, Except.bind, pure, Except.pure, Declaration.addImport,
      TypeExpr.importsFrom_eq, Declaration.addSuperInterface]
    rw [show ({} : TypeSet) = .ofNames [] from rfl]
    simp only [TypeSet.foldl_insert_ofNames]
    simp [interfaceNamed]
    rfl

theorem implementationOf_eq (package : PackagePath) (record key basic : TypeExpr)
    (service : Declaration) :
    implementationOf package record key basic service =
      (nameIn (package.inner ⟨"impl", by decide⟩) record.name ⟨"ServiceImpl", by decide⟩).map
        fun name => implementationNamed name service.name record key basic := by
  unfold implementationOf
  cases nameIn (package.inner ⟨"impl", by decide⟩) record.name ⟨"ServiceImpl", by decide⟩ with
  | error e => rfl
  | ok name =>
    simp only [Except.map, bind, Except.bind, pure, Except.pure, Declaration.addImport,
      TypeExpr.importsFrom_eq, Declaration.addSuperInterface, Declaration.annotate]
    rw [show ({} : TypeSet) = .ofNames [] from rfl]
    simp only [TypeSet.foldl_insert_ofNames]
    simp [implementationNamed]
    exact ⟨rfl, rfl⟩

theorem accepts_service : Identifier.accepts "Service".toList = true := by decide

theorem accepts_serviceImpl : Identifier.accepts "ServiceImpl".toList = true := by decide

theorem accepts_impl : Identifier.accepts "impl".toList = true := by decide

/-- The name of the service interface of a record type. -/
def interfaceName (package : PackagePath) (record : QualifiedName) : QualifiedName where
  scope := package.segments
  simple := record.simple ++ ⟨"Service", accepts_service⟩

/-- The name of the class that implements the service interface of a record type. -/
def implementationName (package : PackagePath) (record : QualifiedName) : QualifiedName where
  scope := (package.inner ⟨"impl", accepts_impl⟩).segments
  simple := record.simple ++ ⟨"ServiceImpl", accepts_serviceImpl⟩

theorem append_right_cancel {a b suffix : Identifier} (same : a ++ suffix = b ++ suffix) :
    a = b := by
  have texts : a.text ++ suffix.text = b.text ++ suffix.text := congrArg Identifier.text same
  have text := (String.append_left_inj suffix.text).1 texts
  cases a
  cases b
  dsimp only at text
  subst text
  rfl

theorem interfaceName_inj {package : PackagePath} {n k : QualifiedName} :
    interfaceName package n = interfaceName package k ↔ n.simple = k.simple := by
  constructor
  · intro same
    exact append_right_cancel (congrArg QualifiedName.simple same)
  · intro same
    rw [interfaceName, interfaceName, same]

theorem implementationName_inj {package : PackagePath} {n k : QualifiedName} :
    implementationName package n = implementationName package k ↔ n.simple = k.simple := by
  constructor
  · intro same
    exact append_right_cancel (congrArg QualifiedName.simple same)
  · intro same
    rw [implementationName, implementationName, same]

/-- Classes lie in a package inside that of the interfaces. -/
theorem interfaceName_ne_implementationName (package : PackagePath) (n k : QualifiedName) :
    interfaceName package n ≠ implementationName package k := by
  intro same
  have lengths := congrArg (fun name : QualifiedName => name.scope.length) same
  simp [interfaceName, implementationName, PackagePath.inner] at lengths

section

variable {table : Table} {s : ServiceSettings}

/-- The interface of a table, and the class behind it if there is a base for one. -/
def builtIn (package : PackagePath) (table : Table) (basic : TypeExpr)
    (basicImpl : Option TypeExpr) : List Declaration :=
  let record := table.recordType.name
  let interface := interfaceName package record
  interfaceNamed interface table.recordType.base (keyType table) basic ::
    (basicImpl.map fun impl =>
      implementationNamed (implementationName package record) interface table.recordType.base
        (keyType table) impl).toList

/-- With all settings given, a record type that is no array has its artifacts. -/
theorem built_of_complete {package : PackagePath} {basic : TypeExpr}
    (project : s.targetProject ≠ none) (place : s.targetPackage = some package)
    (base : s.basicService = some basic) (flat : table.recordType.name.rank = 0) :
    built table s = builtIn package table basic s.basicServiceImpl := by
  have flatBase : table.recordType.base.name.rank = 0 := flat
  have destination : destination? s = some package := by
    unfold destination?
    cases given : s.targetProject with
    | none => exact absurd given project
    | some _ => exact place
  unfold built
  rw [destination, base]
  dsimp only
  rw [artifactsIn, interfaceOf_eq, nameIn_eq, if_pos flatBase]
  cases s.basicServiceImpl with
  | none => rfl
  | some impl =>
    simp only [implementationOf_eq]
    rw [nameIn_eq, if_pos flatBase]
    rfl

/-- There are no artifacts just where a setting is missing or the record type is an array. -/
theorem built_eq_nil_iff :
    built table s = [] ↔ s.targetProject = none ∨ s.targetPackage = none ∨
      s.basicService = none ∨ table.recordType.name.rank ≠ 0 := by
  cases project : s.targetProject with
  | none => simp [built, destination?, project]
  | some _ =>
    cases place : s.targetPackage with
    | none => simp [built, destination?, project, place]
    | some package =>
      cases base : s.basicService with
      | none => simp [built, base]
      | some basic =>
        by_cases flat : table.recordType.name.rank = 0
        · have given : s.targetProject ≠ none := by simp [project]
          simp [built_of_complete given place base flat, builtIn, flat]
        · have array : ¬ table.recordType.base.name.rank = 0 := flat
          have none : built table s = [] := by
            simp only [built, destination?, project, place, base]
            rw [artifactsIn, interfaceOf_eq, nameIn_eq, if_neg array]
            rfl
          simp [none, flat]

theorem built_of_ne_nil (given : built table s ≠ []) :
    ∃ package basic, s.targetPackage = some package ∧ s.basicService = some basic ∧
      table.recordType.name.rank = 0 ∧
      built table s = builtIn package table basic s.basicServiceImpl := by
  have complete := mt built_eq_nil_iff.2 given
  push Not at complete
  obtain ⟨project, place, base, flat⟩ := complete
  obtain ⟨package, place⟩ := Option.ne_none_iff_exists'.1 place
  obtain ⟨basic, base⟩ := Option.ne_none_iff_exists'.1 base
  exact ⟨package, basic, place, base, flat, built_of_complete project place base flat⟩

end

/-- The artifacts of a table are none, or its service interface, or the interface and the class that
implements it. Interfaces lie in the package of the settings and have names that end alike. -/
theorem built_cases (table : Table) (s : ServiceSettings) :
    built table s = [] ∨
      ∃ package basic stem, s.targetPackage = some package ∧ s.basicService = some basic ∧
        let name : QualifiedName :=
          { scope := package.segments, simple := stem ++ ⟨"Service", by decide⟩ }
        built table s = [interfaceNamed name table.recordType.base (keyType table) basic] ∨
          ∃ inner basicImpl, s.basicServiceImpl = some basicImpl ∧
            built table s =
              [interfaceNamed name table.recordType.base (keyType table) basic,
               implementationNamed inner name table.recordType.base (keyType table)
                 basicImpl] := by
  by_cases missing : built table s = []
  · exact .inl missing
  · obtain ⟨package, basic, place, base, -, made⟩ := built_of_ne_nil missing
    refine .inr ⟨package, basic, table.recordType.name.simple, place, base, ?_⟩
    rw [made]
    cases s.basicServiceImpl with
    | none => exact .inl rfl
    | some basicImpl => exact .inr ⟨_, basicImpl, rfl, rfl⟩

/-- No service interface goes by the name of the interface that marks classes as serializable. -/
theorem service_ne_serializable (stem : Identifier) (scope : List Identifier) :
    ({ scope, simple := stem ++ ⟨"Service", by decide⟩ } : QualifiedName).unqualified ≠
      serializableType.name.unqualified := by
  intro equal
  have simple := congrArg (fun n : QualifiedName => n.simple.text.toList) equal
  -- The last letters agree, so the whole ending is compared.
  have ends : "Service".toList <:+ "Serializable".toList := by
    refine ⟨stem.text.toList, ?_⟩
    rw [← String.toList_append]
    exact simple
  exact absurd ends (by decide)

end Service

/-! ## Base types from properties -/

namespace ServiceSettings

theorem readFilled_readBase {p : Properties} {key : String} {found : Option TypeExpr}
    (read : readFilled p key readBase = .ok found) :
    ∀ t, found = some t → t = TypeExpr.ofName t.name := by
  unfold readFilled at read
  split at read
  · obtain rfl := Except.ok.inj read
    intro t given
    cases given
  · rename_i value _
    intro t given
    subst given
    unfold readBase at read
    cases parsed : QualifiedName.parse value with
    | error e =>
      rw [parsed] at read
      cases read
    | ok n =>
      rw [parsed] at read
      obtain rfl := Option.some.inj (Except.ok.inj read)
      rfl

/-- Base types that were read from properties have no arguments. -/
theorem base_of_ofProperties {p : Properties} {s : ServiceSettings}
    (read : ofProperties p = .ok s) :
    (∀ t, s.basicService = some t → t = TypeExpr.ofName t.name) ∧
      ∀ t, s.basicServiceImpl = some t → t = TypeExpr.ofName t.name := by
  unfold ofProperties at read
  cases package : readFilled p "targetPackage" PackagePath.parse with
  | error e =>
    rw [package] at read
    cases read
  | ok targetPackage =>
    cases service : readFilled p "basicService" readBase with
    | error e =>
      rw [package, service] at read
      cases read
    | ok basicService =>
      cases impl : readFilled p "basicServiceImpl" readBase with
      | error e =>
        rw [package, service, impl] at read
        cases read
      | ok basicServiceImpl =>
        rw [package, service, impl] at read
        obtain rfl := Except.ok.inj read
        exact ⟨readFilled_readBase service, readFilled_readBase impl⟩

end ServiceSettings

end RecordSynth
