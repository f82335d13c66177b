import RecordSynth.Proofs.Pass.Records
import RecordSynth.Proofs.Service
/-!
# Imports of what a pass makes

A source compiles only if every short name in it is known, and an import that nothing in it needs is
noise. Imports are gathered while supertypes, members and annotations are put together elsewhere;
here the two are compared, for every artifact of a pass of the built-in plugins.
-/

namespace RecordSynth

/-! ## Imports that match -/

/-- Annotation lines and the types behind them. -/
inductive Annotates : String → TypeExpr → Prop
  | service : Annotates "@Service" Service.annotationType
  | dateTimeFormat (pattern : String) : Annotates (dateTimeFormat pattern) dateTimeFormatType
  | library {library : JsonLibrary} {pattern line : String} {n : QualifiedName}
      (named : library.annotationName? = some n)
      (written : library.annotationLine? pattern = some line) : Annotates line (.ofName n)

/-- The lines of the annotations of a declaration and of its fields. -/
def Declaration.annotationLines (d : Declaration) : List String :=
  d.annotations ++ d.fields.flatMap (·.annotations)

/-- The type is behind a super-interface that is written by its simple name: the interface that
marks classes as serializable, or an interface among the artifacts. -/
def BehindParent (artifacts : List Artifact) (d : Declaration) (t : TypeExpr) : Prop :=
  t.unqualified ∈ d.superInterfaces.types ∧
    (t = serializableType ∨
      ∃ a ∈ artifacts, a.declaration.kind = .interfaceType ∧ a.declaration.type = t)

/-- The declaration imports what it refers to and nothing else, `exempt` types aside. -/
structure ImportsMatch (artifacts : List Artifact) (exempt : TypeExpr → Prop) (d : Declaration) :
    Prop where
  /-- What is referred to in another package is imported without arguments and brackets. -/
  complete : ∀ t ∈ d.references, t.Foreign d.name.scope → t.element ∈ d.imports.types ∨
    exempt t.element
  /-- There is a type behind each super-interface of a class. -/
  resolved : d.kind = .classType → ∀ u ∈ d.superInterfaces.types,
    ∃ t, BehindParent artifacts d t ∧ t.unqualified = u
  /-- The types behind super-interfaces are imported from other packages. -/
  parents : ∀ t, BehindParent artifacts d t → t.Foreign d.name.scope → t ∈ d.imports.types
  /-- What is imported is referred to, or is behind a super-interface or an annotation. -/
  used : ∀ i ∈ d.imports.types, i.Foreign d.name.scope ∧
    ((∃ t ∈ d.references, t.element = i) ∨ BehindParent artifacts d i ∨
      ∃ line ∈ d.annotationLines, Annotates line i)

theorem foreign_of_mem_foreignNames {scope : List Identifier} {t : TypeExpr} {n : QualifiedName}
    (asked : n ∈ t.foreignNames scope) : (TypeExpr.ofName n).Foreign scope := by
  obtain ⟨u, -, foreign, rfl⟩ := TypeExpr.mem_foreignNames.1 asked
  exact foreign

theorem eq_of_mem_foreignNames_ofName {scope : List Identifier} {n k : QualifiedName}
    (asked : n ∈ (TypeExpr.ofName k).foreignNames scope) : n = k.element := by
  rw [TypeExpr.foreignNames_ofName] at asked
  split at asked
  · exact List.mem_singleton.1 asked
  · cases asked

/-! ## Record classes -/

namespace Record

variable {s : DomainSettings} {table : Table}

theorem fieldTypes_clean : (clean s table).fields.map (·.type) = table.columns.map (·.type) := by
  refine List.ext_getElem (by simp [clean]) ?_
  intro i below _
  simp [clean, cleanField]

theorem mem_superInterfaces_clean {t : TypeExpr} :
    t ∈ (clean s table).superInterfaces.types ↔
      s.serializable = true ∧ t = serializableType.unqualified := by
  rw [clean]
  dsimp only
  split
  · rename_i marked
    simp [marked]
  · rename_i unmarked
    simp [unmarked]

theorem mem_writtenTypes_clean {t : TypeExpr} :
    t ∈ (clean s table).writtenTypes ↔
      (s.serializable = true ∧ t = serializableType.unqualified) ∨
        ∃ c ∈ table.columns, c.type = t := by
  have members : (t ∈ (clean s table).methods.flatMap
      fun m => m.parameters.map (·.type) ++ m.returnType.toList) ↔
      ∃ c ∈ table.columns, c.type = t := by
    have each : (clean s table).methods.flatMap
        (fun m => m.parameters.map (·.type) ++ m.returnType.toList) =
        table.columns.flatMap fun c => [c.type, c.type] := List.flatMap_assoc
    simp [each, eq_comm]
  rw [Declaration.writtenTypes, fieldTypes_clean, List.mem_append, List.mem_append, members,
    List.mem_append, mem_superInterfaces_clean]
  simp [clean]

theorem exists_dateLines (asked : s.importsDates table.columns = true) :
    ∃ pattern, ∀ line ∈ Field.dateAnnotations s.json pattern,
      line ∈ (clean s table).annotationLines := by
  rw [DomainSettings.importsDates, Bool.and_eq_true, List.any_eq_true] at asked
  obtain ⟨wanted, c, member, temporal⟩ := asked
  rw [Meaning.isTemporal, Option.isSome_iff_exists] at temporal
  obtain ⟨pattern, known⟩ := temporal
  have lines : dateLines s c = Field.dateAnnotations s.json pattern := by
    rw [dateLines, wanted]
    cases kind : c.meaning <;> rw [kind] at known <;> cases known <;> rfl
  refine ⟨pattern, ?_⟩
  intro line among
  obtain ⟨i, below, rfl⟩ := List.mem_iff_getElem.1 member
  have carried : cleanField s i table.columns[i] ∈ (clean s table).fields := by
    rw [clean]
    exact List.mem_mapIdx.2 ⟨i, below, rfl⟩
  rw [Declaration.annotationLines, List.mem_append, List.mem_flatMap]
  refine .inr ⟨_, carried, ?_⟩
  rw [cleanField, lines]
  exact among

theorem mem_decorationTypes {columns : List Column} {t : TypeExpr} :
    t ∈ decorationTypes s columns ↔ (s.serializable = true ∧ t = serializableType) ∨
      s.importsDates columns = true ∧
        ((∃ n, s.json.annotationName? = some n ∧ TypeExpr.ofName n = t) ∨
          t = dateTimeFormatType) := by
  rw [decorationTypes, List.mem_append]
  cases s.serializable <;> cases s.importsDates columns <;> simp

/-- A type behind decoration is behind a super-interface or an annotation of the class. -/
theorem decorationTypes_needed {artifacts : List Artifact} {t : TypeExpr}
    (member : t ∈ decorationTypes s table.columns) :
    BehindParent artifacts (clean s table) t ∨
      ∃ line ∈ (clean s table).annotationLines, Annotates line t := by
  rcases mem_decorationTypes.1 member with ⟨marked, rfl⟩ | ⟨asked, dates⟩
  · refine .inl ⟨?_, .inl rfl⟩
    simp [clean, marked]
  · right
    obtain ⟨pattern, carried⟩ := exists_dateLines asked
    rcases dates with ⟨n, named, rfl⟩ | rfl
    · cases written : s.json.annotationLine? pattern with
      | none =>
        cases library : s.json <;> rw [library] at named written <;> cases named <;> cases written
      | some line =>
        refine ⟨line, carried line ?_, .library named written⟩
        simp [Field.dateAnnotations, written]
    · refine ⟨dateTimeFormat pattern, carried _ ?_, .dateTimeFormat pattern⟩
      simp [Field.dateAnnotations]

/-- Decoration imports types without arguments and brackets, and not the one behind generator
markers. -/
theorem decorationTypes_plain {columns : List Column} {t : TypeExpr}
    (member : t ∈ decorationTypes s columns) :
    t = TypeExpr.ofName t.name.element ∧ t.name ≠ generatedType.name := by
  rcases mem_decorationTypes.1 member with ⟨-, rfl⟩ | ⟨-, ⟨n, named, rfl⟩ | rfl⟩
  · decide
  · cases library : s.json <;> rw [library] at named <;> cases named <;> decide
  · decide

/-- A type behind decoration is imported everywhere but in its own package. -/
theorem foreign_of_mem_decorationTypes {columns : List Column} {t : TypeExpr}
    (member : t ∈ decorationTypes s columns) (scope : List Identifier) :
    t.Foreign scope ↔ t.name.scope ≠ scope := by
  have packaged : t.name.scope ≠ [] ∧ t.name.scope ≠ QualifiedName.implicitScope := by
    rcases mem_decorationTypes.1 member with ⟨-, rfl⟩ | ⟨-, ⟨n, named, rfl⟩ | rfl⟩
    · decide
    · cases library : s.json <;> rw [library] at named <;> cases named <;> decide
    · decide
  rw [TypeExpr.Foreign, and_iff_right packaged.1, and_iff_right packaged.2]

theorem importsFrom_decorationTypes (s : DomainSettings) (columns : List Column)
    (scope : List Identifier) : (decorationTypes s columns).flatMap (·.importsFrom scope) =
      (decorationTypes s columns).filter fun t => t.name.scope ≠ scope := by
  have each : ∀ t ∈ decorationTypes s columns, t.importsFrom scope =
      if t.name.scope ≠ scope then [t] else [] := by
    intro t member
    rw [TypeExpr.importsFrom_of_plain (decorationTypes_plain member).1]
    simp only [foreign_of_mem_decorationTypes member]
  rw [List.flatMap_congr each]
  generalize decorationTypes s columns = ts
  induction ts with
  | nil => rfl
  | cons t ts ih => by_cases other : t.name.scope ≠ scope <;> simp_all

theorem nodup_decorationTypes (s : DomainSettings) (columns : List Column) :
    ((decorationTypes s columns).map (·.name)).Nodup := by
  unfold decorationTypes
  cases s.serializable <;> cases s.importsDates columns <;> cases s.json <;> decide

/-- Among interfaces of other names, the type behind the super-interface of a record class is the one
that marks it as serializable. -/
theorem eq_of_behindParent_clean {artifacts : List Artifact} {t : TypeExpr}
    (named : ∀ a ∈ artifacts, a.declaration.kind = .interfaceType →
      a.declaration.name.unqualified ≠ serializableType.name.unqualified)
    (behind : BehindParent artifacts (clean s table) t) :
    s.serializable = true ∧ t = serializableType := by
  obtain ⟨parent, origin⟩ := behind
  obtain ⟨marked, equal⟩ := mem_superInterfaces_clean.1 parent
  rcases origin with rfl | ⟨a, member, kind, rfl⟩
  · exact ⟨marked, rfl⟩
  · exact absurd (congrArg TypeExpr.name equal) (named a member kind)

/-- The imports of a clean record class match what it refers to, but for the type behind generator
markers, which no record class imports. -/
theorem importsMatch_clean (artifacts : List Artifact)
    (named : ∀ a ∈ artifacts, a.declaration.kind = .interfaceType →
      a.declaration.name.unqualified ≠ serializableType.name.unqualified) :
    ImportsMatch artifacts (· = generatedType) (clean s table) ∧
      generatedType ∉ (clean s table).imports.types := by
  refine ⟨⟨?_, ?_, ?_, ?_⟩, ?_⟩
  · intro t member foreign
    obtain ⟨r, written, inside⟩ := Declaration.mem_references.1 member
    rcases mem_writtenTypes_clean.1 written with ⟨-, rfl⟩ | ⟨c, among, rfl⟩
    · -- A super-interface by its simple name lies in no package, so it asks for nothing.
      obtain rfl := List.mem_singleton.1 inside
      exact absurd rfl foreign.1
    · by_cases marker : t.name.element = generatedType.name
      · right
        rw [TypeExpr.element, marker]
        rfl
      · left
        refine TypeSet.mem_ofNames.2 ⟨t.name.element, ?_, rfl⟩
        rw [importedNames, List.mem_append, List.mem_filter, List.mem_flatMap]
        exact .inl ⟨⟨c, among, TypeExpr.mem_foreignNames.2 ⟨t, inside, foreign, rfl⟩⟩,
          by simpa using marker⟩
  · rintro - u parent
    obtain ⟨marked, rfl⟩ := mem_superInterfaces_clean.1 parent
    exact ⟨serializableType, ⟨parent, .inl rfl⟩, rfl⟩
  · intro t parent foreign
    obtain ⟨marked, rfl⟩ := eq_of_behindParent_clean named parent
    refine TypeSet.mem_ofNames.2 ⟨serializableType.name, ?_, rfl⟩
    rw [importedNames, List.mem_append, List.mem_flatMap]
    refine .inr ⟨serializableType, mem_decorationTypes.2 (.inl ⟨marked, rfl⟩), ?_⟩
    exact TypeExpr.mem_foreignNames.2 ⟨serializableType, List.mem_singleton.2 rfl, foreign, rfl⟩
  · intro i member
    obtain ⟨n, listed, rfl⟩ := TypeSet.mem_ofNames.1 member
    rw [importedNames, List.mem_append, List.mem_filter, List.mem_flatMap, List.mem_flatMap]
      at listed
    rcases listed with ⟨⟨c, among, asked⟩, -⟩ | ⟨t, decoration, asked⟩
    · refine ⟨foreign_of_mem_foreignNames asked, .inl ?_⟩
      exact Declaration.exists_reference (mem_writtenTypes_clean.2 (.inr ⟨c, among, rfl⟩)) asked
    · refine ⟨foreign_of_mem_foreignNames asked, .inr ?_⟩
      have plain := (decorationTypes_plain decoration).1
      rw [plain] at asked decoration
      rw [eq_of_mem_foreignNames_ofName asked]
      exact decorationTypes_needed decoration
  · intro member
    obtain ⟨n, listed, equal⟩ := TypeSet.mem_ofNames.1 member
    obtain rfl : generatedType.name = n := congrArg TypeExpr.name equal
    rw [importedNames, List.mem_append, List.mem_filter, List.mem_flatMap, List.mem_flatMap]
      at listed
    rcases listed with ⟨-, kept⟩ | ⟨t, decoration, asked⟩
    · exact absurd rfl (of_decide_eq_true kept)
    · obtain ⟨plain, other⟩ := decorationTypes_plain decoration
      rw [plain] at asked
      have equal := eq_of_mem_foreignNames_ofName asked
      rw [plain] at other
      exact other equal.symm

end Record

/-! ## Service artifacts -/

namespace Service

variable {record key basic : TypeExpr}

/-- A base type without arguments asks for itself, then the record type and the key type do. -/
theorem foreignNames_basicOf (plain : basic = TypeExpr.ofName basic.name)
    (scope : List Identifier) :
    (basicOf basic record key).foreignNames scope =
      ([basic, record, key]).flatMap (·.foreignNames scope) := by
  have applied : basicOf basic record key = ⟨basic.name, [record, key]⟩ := rfl
  rw [applied, TypeExpr.foreignNames_mk, TypeExpr.foreignNamesAll_cons,
    TypeExpr.foreignNamesAll_cons, plain, List.flatMap_cons, TypeExpr.foreignNames_ofName]
  rfl

theorem ofName_ne_basicOf (n : QualifiedName) : TypeExpr.ofName n ≠ basicOf basic record key := by
  intro equal
  have arguments := congrArg TypeExpr.arguments equal
  cases arguments

theorem mem_writtenTypes_interfaceNamed {name : QualifiedName} {r : TypeExpr} :
    r ∈ (interfaceNamed name record key basic).writtenTypes ↔ r = basicOf basic record key := by
  simp [interfaceNamed, Declaration.writtenTypes]

/-- The super-interface of a service interface has arguments, so it is not written by its simple
name. -/
theorem not_behindParent_interfaceNamed (artifacts : List Artifact) (name : QualifiedName)
    (t : TypeExpr) : ¬ BehindParent artifacts (interfaceNamed name record key basic) t := by
  rintro ⟨parent, origin⟩
  have equal := List.mem_singleton.1 parent
  rcases origin with rfl | ⟨a, -, -, rfl⟩
  · exact ofName_ne_basicOf _ equal
  · exact ofName_ne_basicOf _ equal

theorem importsMatch_interfaceNamed (artifacts : List Artifact) (name : QualifiedName)
    (plain : basic = TypeExpr.ofName basic.name) :
    ImportsMatch artifacts (fun _ => False) (interfaceNamed name record key basic) := by
  refine ⟨?_, ?_, ?_, ?_⟩
  · intro t member foreign
    left
    obtain ⟨r, among, inside⟩ := Declaration.mem_references.1 member
    obtain rfl := mem_writtenTypes_interfaceNamed.1 among
    refine TypeSet.mem_ofNames.2 ⟨t.name.element, ?_, rfl⟩
    rw [← foreignNames_basicOf plain]
    exact TypeExpr.mem_foreignNames.2 ⟨t, inside, foreign, rfl⟩
  · intro isClass
    cases isClass
  · intro t parent
    exact absurd parent (not_behindParent_interfaceNamed artifacts name t)
  · intro i member
    obtain ⟨n, listed, rfl⟩ := TypeSet.mem_ofNames.1 member
    rw [← foreignNames_basicOf plain] at listed
    exact ⟨foreign_of_mem_foreignNames listed,
      .inl (Declaration.exists_reference (mem_writtenTypes_interfaceNamed.2 rfl) listed)⟩

theorem mem_writtenTypes_implementationNamed {name service : QualifiedName} {r : TypeExpr} :
    r ∈ (implementationNamed name service record key basic).writtenTypes ↔
      r = basicOf basic record key ∨ r = TypeExpr.ofName service.unqualified := by
  simp [implementationNamed, Declaration.writtenTypes]

/-- A service interface among the artifacts is behind the super-interface of its class. -/
theorem behindParent_implementationNamed {artifacts : List Artifact} {service : QualifiedName}
    (name : QualifiedName)
    (made : ∃ a ∈ artifacts, a.declaration.kind = .interfaceType ∧ a.declaration.name = service) :
    BehindParent artifacts (implementationNamed name service record key basic)
      (TypeExpr.ofName service) := by
  obtain ⟨a, member, kind, named⟩ := made
  exact ⟨List.mem_singleton.2 rfl, .inr ⟨a, member, kind, congrArg TypeExpr.ofName named⟩⟩

/-- The type behind the super-interface of a class is the service interface, if that is the only one
of its simple name. -/
theorem eq_of_behindParent_implementationNamed {artifacts : List Artifact}
    {name service : QualifiedName} {t : TypeExpr}
    (alike : ∀ a ∈ artifacts, a.declaration.kind = .interfaceType →
      a.declaration.name.unqualified = service.unqualified → a.declaration.name = service)
    (other : service.unqualified ≠ serializableType.name.unqualified)
    (behind : BehindParent artifacts (implementationNamed name service record key basic) t) :
    t = TypeExpr.ofName service := by
  obtain ⟨parent, origin⟩ := behind
  have equal := congrArg TypeExpr.name (List.mem_singleton.1 parent)
  rcases origin with rfl | ⟨a, member, kind, rfl⟩
  · exact absurd equal.symm other
  · exact congrArg TypeExpr.ofName (alike a member kind equal)

/-- The imports of the class behind a service interface match what it refers to, if the interface is
the only one of its simple name. -/
theorem importsMatch_implementationNamed {artifacts : List Artifact} {service : QualifiedName}
    (made : ∃ a ∈ artifacts, a.declaration.kind = .interfaceType ∧ a.declaration.name = service)
    (alike : ∀ a ∈ artifacts, a.declaration.kind = .interfaceType →
      a.declaration.name.unqualified = service.unqualified → a.declaration.name = service)
    (flat : service.element = service)
    (other : service.unqualified ≠ serializableType.name.unqualified) (name : QualifiedName)
    (plain : basic = TypeExpr.ofName basic.name) :
    ImportsMatch artifacts (fun _ => False)
      (implementationNamed name service record key basic) := by
  have parent : BehindParent artifacts (implementationNamed name service record key basic)
      (TypeExpr.ofName service) := behindParent_implementationNamed name made
  have imported : ∀ i, i ∈ (implementationNamed name service record key basic).imports.types ↔
      ∃ n, (n ∈ annotationType.foreignNames name.scope ∨
        n ∈ (basicOf basic record key).foreignNames name.scope ∨
        n ∈ (TypeExpr.ofName service).foreignNames name.scope) ∧ i = TypeExpr.ofName n := by
    intro i
    rw [foreignNames_basicOf plain, implementationNamed, TypeSet.mem_ofNames]
    simp [or_assoc]
  refine ⟨?_, ?_, ?_, ?_⟩
  · intro t member foreign
    left
    obtain ⟨r, among, inside⟩ := Declaration.mem_references.1 member
    rcases mem_writtenTypes_implementationNamed.1 among with rfl | rfl
    · refine (imported _).2 ⟨t.name.element, .inr (.inl ?_), rfl⟩
      exact TypeExpr.mem_foreignNames.2 ⟨t, inside, foreign, rfl⟩
    · obtain rfl := List.mem_singleton.1 inside
      exact absurd rfl foreign.1
  · rintro - u member
    obtain rfl := List.mem_singleton.1 member
    exact ⟨_, parent, rfl⟩
  · intro t given foreign
    obtain rfl := eq_of_behindParent_implementationNamed alike other given
    refine (imported _).2 ⟨service.element, .inr (.inr ?_), by rw [flat]⟩
    exact TypeExpr.mem_foreignNames.2
      ⟨TypeExpr.ofName service, List.mem_singleton.2 rfl, foreign, rfl⟩
  · intro i member
    obtain ⟨n, listed, rfl⟩ := (imported i).1 member
    rcases listed with annotation | base | interface
    · refine ⟨foreign_of_mem_foreignNames annotation, .inr (.inr ⟨"@Service", ?_, ?_⟩)⟩
      · simp [implementationNamed, Declaration.annotationLines]
      · rw [eq_of_mem_foreignNames_ofName annotation]
        exact .service
    · exact ⟨foreign_of_mem_foreignNames base,
        .inl (Declaration.exists_reference
          (mem_writtenTypes_implementationNamed.2 (.inl rfl)) base)⟩
    · refine ⟨foreign_of_mem_foreignNames interface, .inr (.inl ?_)⟩
      rw [eq_of_mem_foreignNames_ofName interface, flat]
      exact parent

end Service

/-! ## Passes of the built-in plugins -/

namespace Hooks

variable {s : ServiceSettings} {table : Table} {a : Artifact}

theorem mem_serviceArtifacts (member : a ∈ serviceArtifacts s table) :
    a.declaration ∈ Service.built table s ∧
      ∀ d ∈ Service.built table s, ∃ b ∈ serviceArtifacts s table, b.declaration = d := by
  unfold serviceArtifacts at member ⊢
  split at member
  · obtain ⟨d, among, rfl⟩ := List.mem_map.1 member
    refine ⟨among, ?_⟩
    intro e inside
    exact ⟨_, List.mem_map.2 ⟨e, inside, rfl⟩, rfl⟩
  · cases member

/-- With all settings given, a record type that is no array has its artifacts. -/
theorem serviceArtifacts_of_complete {project : String} {package : PackagePath} {basic : TypeExpr}
    (enabled : s.disable = false) (target : s.targetProject = some project)
    (place : s.targetPackage = some package) (base : s.basicService = some basic)
    (flat : table.recordType.name.rank = 0) :
    serviceArtifacts s table = (Service.builtIn package table basic s.basicServiceImpl).map
      fun declaration => { declaration, targetProject := project } := by
  have given : s.targetProject ≠ none := by simp [target]
  simp only [serviceArtifacts, enabled, target, Service.built_of_complete given place base flat]

/-- All service interfaces lie in the package of the settings, and their names end alike. -/
theorem interface_name (member : a ∈ serviceArtifacts s table)
    (kind : a.declaration.kind = .interfaceType) :
    ∃ package stem, s.targetPackage = some package ∧ a.declaration.name =
      { scope := package.segments, simple := stem ++ ⟨"Service", by decide⟩ } := by
  have among := (mem_serviceArtifacts member).1
  rcases Service.built_cases table s with none | ⟨package, basic, stem, target, -, made⟩
  · rw [none] at among
    cases among
  · refine ⟨package, stem, target, ?_⟩
    rcases made with alone | ⟨inner, basicImpl, -, both⟩
    · rw [alone] at among
      rw [List.mem_singleton.1 among]
      rfl
    · rw [both, List.mem_pair] at among
      rcases among with interface | implementation
      · rw [interface]
        rfl
      · rw [implementation] at kind
        cases kind

/-- The interfaces among the artifacts are service interfaces of the settings. -/
def InterfacesOf (s : ServiceSettings) (artifacts : List Artifact) : Prop :=
  ∀ a ∈ artifacts, a.declaration.kind = .interfaceType →
    ∃ package stem, s.targetPackage = some package ∧ a.declaration.name =
      { scope := package.segments, simple := stem ++ ⟨"Service", Service.accepts_service⟩ }

/-- Record classes are no interfaces, so all interfaces of a pass are those of services. -/
theorem interfacesOf_builtIn (d : DomainSettings) (s : ServiceSettings) (recordProject : String)
    (tables : List Table) :
    InterfacesOf s ((tables.map fun table =>
      { declaration := Record.clean d table, targetProject := recordProject }) ++
        tables.flatMap (serviceArtifacts s)) := by
  intro a member kind
  rcases List.mem_append.1 member with isRecord | isService
  · obtain ⟨table, -, rfl⟩ := List.mem_map.1 isRecord
    cases kind
  · obtain ⟨table, -, own⟩ := List.mem_flatMap.1 isService
    exact interface_name own kind

theorem InterfacesOf.ne_serializable {artifacts : List Artifact}
    (interfaces : InterfacesOf s artifacts) :
    ∀ a ∈ artifacts, a.declaration.kind = .interfaceType →
      a.declaration.name.unqualified ≠ serializableType.name.unqualified := by
  intro a member kind
  obtain ⟨package, stem, -, named⟩ := interfaces a member kind
  rw [named]
  exact Service.service_ne_serializable stem _

/-- Two service interfaces of one simple name are the same, for they share the package. -/
theorem InterfacesOf.name_eq {artifacts : List Artifact} (interfaces : InterfacesOf s artifacts)
    {package : PackagePath} (target : s.targetPackage = some package) (stem : Identifier) :
    let service : QualifiedName :=
      { scope := package.segments, simple := stem ++ ⟨"Service", Service.accepts_service⟩ }
    ∀ a ∈ artifacts, a.declaration.kind = .interfaceType →
      a.declaration.name.unqualified = service.unqualified → a.declaration.name = service := by
  intro service a member kind equal
  obtain ⟨package', stem', target', named⟩ := interfaces a member kind
  obtain rfl : package = package' := Option.some.inj (target.symm.trans target')
  rw [named] at equal ⊢
  have simple := congrArg QualifiedName.simple equal
  dsimp only [QualifiedName.unqualified, service] at simple
  rw [simple]

/-- The imports of the service artifacts of a table match what they refer to, among artifacts that
hold them and whose interfaces are service interfaces of the same settings. -/
theorem importsMatch_serviceArtifacts {artifacts : List Artifact}
    (plain : (∀ t, s.basicService = some t → t = TypeExpr.ofName t.name) ∧
      ∀ t, s.basicServiceImpl = some t → t = TypeExpr.ofName t.name)
    (held : ∀ b ∈ serviceArtifacts s table, b ∈ artifacts)
    (interfaces : InterfacesOf s artifacts) (member : a ∈ serviceArtifacts s table) :
    ImportsMatch artifacts (fun _ => False) a.declaration := by
  obtain ⟨among, together⟩ := mem_serviceArtifacts member
  rcases Service.built_cases table s with none | ⟨package, basic, stem, target, base, made⟩
  · rw [none] at among
    cases among
  · rcases made with alone | ⟨inner, basicImpl, impl, both⟩
    · rw [alone, List.mem_singleton] at among
      rw [among]
      exact Service.importsMatch_interfaceNamed artifacts _ (plain.1 basic base)
    · rw [both] at together
      rw [both, List.mem_pair] at among
      rcases among with interface | implementation
      · rw [interface]
        exact Service.importsMatch_interfaceNamed artifacts _ (plain.1 basic base)
      · obtain ⟨b, beside, interface⟩ := together _ (List.mem_cons_self ..)
        rw [implementation]
        refine Service.importsMatch_implementationNamed ⟨b, held b beside, ?_, ?_⟩
          (interfaces.name_eq target stem) rfl (Service.service_ne_serializable stem _) inner
          (plain.2 basicImpl impl)
        · rw [interface]
          rfl
        · rw [interface]
          rfl

end Hooks

namespace Pass

/-- Every artifact of a pass of the two built-in plugins, in either order and with settings that
were read from properties, imports what it refers to and nothing else. Record classes alone may
refer to the type behind generator markers, which none of them imports. -/
theorem run_gives_matchingImports {m : Type → Type} [Monad m] [LawfulMonad m] [MonadJournal m]
    (domainProperties serviceProperties : Properties) {s : ServiceSettings}
    (read : ServiceSettings.ofProperties serviceProperties = .ok s) {plugins : List (Plugin m)}
    (pair : plugins = [.domain (.ofProperties domainProperties), .service s] ∨
      plugins = [.service s, .domain (.ofProperties domainProperties)])
    (recordProject : String) (tables : List Table) :
    ∃ records services : List Artifact,
      Gives (run { plugins, recordProject } tables)
        { artifacts := records ++ services, warnings := [] } ∧
      records.map (·.declaration.name) = tables.map (·.recordType.name) ∧
      (∀ a ∈ records, ImportsMatch (records ++ services) (· = generatedType) a.declaration ∧
        generatedType ∉ a.declaration.imports.types) ∧
      ∀ a ∈ services, ImportsMatch (records ++ services) (fun _ => False) a.declaration := by
  set d := DomainSettings.ofProperties domainProperties
  have interfaces := Hooks.interfacesOf_builtIn d s recordProject tables
  refine ⟨_, _, gives_builtIn pair recordProject tables, ?_, ?_, ?_⟩
  · rw [List.map_map]
    rfl
  · intro a isRecord
    obtain ⟨table, -, rfl⟩ := List.mem_map.1 isRecord
    exact Record.importsMatch_clean _ interfaces.ne_serializable
  · intro a isService
    obtain ⟨table, among, own⟩ := List.mem_flatMap.1 isService
    refine Hooks.importsMatch_serviceArtifacts (ServiceSettings.base_of_ofProperties read) ?_
      interfaces own
    intro b beside
    exact List.mem_append_right _ (List.mem_flatMap.2 ⟨table, among, beside⟩)

/-- A service interface and its class, which also imports the interface. -/
theorem run_gives_matchingImports_person :
    let properties : Properties := .ofList
      [("targetProject", "out"), ("targetPackage", "app"), ("basicService", "base.Basic"),
        ("basicServiceImpl", "base.impl.BasicImpl")]
    let settings : ServiceSettings :=
      { targetProject := some "out"
        targetPackage := some ⟨[⟨"app", by decide⟩], by decide⟩
        basicService := some (.ofName
          { scope := [⟨"base", by decide⟩], simple := ⟨"Basic", by decide⟩ })
        basicServiceImpl := some (.ofName
          { scope := [⟨"base", by decide⟩, ⟨"impl", by decide⟩]
            simple := ⟨"BasicImpl", by decide⟩ }) }
    let table : Table :=
      { name := "PERSON"
        recordType := .ofName { scope := [⟨"model", by decide⟩], simple := ⟨"Person", by decide⟩ } }
    let pass : Pass Id :=
      { plugins := [.service settings, .domain (.ofProperties {})], recordProject := "out" }
    ServiceSettings.ofProperties properties = .ok settings ∧
      (run pass [table]).artifacts.map (fun a => (a.declaration.name.text,
        a.declaration.imports.types.map (·.text))) =
        [("model.Person", []), ("app.PersonService", ["base.Basic", "model.Person"]),
          ("app.impl.PersonServiceImpl", ["org.springframework.stereotype.Service",
            "base.impl.BasicImpl", "model.Person", "app.PersonService"])] ∧
      ∀ a ∈ (run pass [table]).artifacts.drop 1,
        ImportsMatch (run pass [table]).artifacts (fun _ => False) a.declaration := by
  intro properties settings table pass
  have read : ServiceSettings.ofProperties properties = .ok settings := by cbv
  refine ⟨read, by cbv, ?_⟩
  obtain ⟨records, services, ⟨journal, given⟩, names, -, servicesMatch⟩ :=
    run_gives_matchingImports {} properties read (.inr rfl) (m := Id) "out" [table]
  have output : (run pass [table]).artifacts = records ++ services :=
    congrArg PassOutput.artifacts given
  have one : records.length = 1 := by
    have lengths := congrArg List.length names
    rwa [List.length_map] at lengths
  intro a member
  rw [output] at member ⊢
  rw [← one, List.drop_left] at member
  exact servicesMatch a member

end Pass

end RecordSynth
