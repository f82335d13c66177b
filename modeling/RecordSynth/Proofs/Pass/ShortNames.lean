import RecordSynth.Proofs.Pass.Annotations
/-!
# Short names in what a pass makes

A source writes every type without its package, so it can be read only if no two of its types go by
the same short name. Imports are told apart by their full names, and nothing in a pass compares short
ones: whether a source can be read depends on the types that tables and settings name. Here it is
said of every artifact of a pass which types these are, and that nothing else is in the way.
-/

namespace RecordSynth

/-! ## The names in a source -/

/-- The full names that types with a package have at any depth, without array brackets. -/
def packagedNames (ts : List TypeExpr) : List QualifiedName :=
  ((ts.flatMap (·.occurrences)).filter fun u => u.name.scope ≠ []).map (·.name.element)

theorem mem_packagedNames {ts : List TypeExpr} {n : QualifiedName} :
    n ∈ packagedNames ts ↔
      ∃ t ∈ ts, ∃ u ∈ t.occurrences, u.name.scope ≠ [] ∧ u.name.element = n := by
  simp only [packagedNames, List.mem_map, List.mem_filter, List.mem_flatMap, decide_eq_true_eq]
  constructor
  · rintro ⟨u, ⟨⟨t, member, inside⟩, packaged⟩, rfl⟩
    exact ⟨t, member, u, inside, packaged, rfl⟩
  · rintro ⟨t, member, u, inside, packaged, rfl⟩
    exact ⟨u, ⟨⟨t, member, inside⟩, packaged⟩, rfl⟩

/-- The full names behind the short ones in the source of a declaration: its own, those of the types
written in it, and those behind super-interfaces and annotations. A type that is written without a
package has no full name to add: it stands for whatever its short name stands for where it is
written, which may be a primitive type, a member of `java.lang`, a neighbour or an import. -/
inductive Shown (artifacts : List Artifact) (d : Declaration) : QualifiedName → Prop
  | declared : Shown artifacts d d.name
  | written {n : QualifiedName} (member : n ∈ packagedNames d.writtenTypes) : Shown artifacts d n
  | parent {t : TypeExpr} (behind : BehindParent artifacts d t) : Shown artifacts d t.name
  | annotated {line : String} {t : TypeExpr} (carried : line ∈ d.annotationLines)
      (behind : Annotates line t) : Shown artifacts d t.name

/-- Every short name in the source of a declaration stands for one type. -/
structure Unambiguous (artifacts : List Artifact) (d : Declaration) : Prop where
  imports : ∀ i ∈ d.imports.types, ∀ j ∈ d.imports.types, i.shortText = j.shortText → i = j
  declared : ∀ i ∈ d.imports.types, i.shortText ≠ d.type.shortText
  shown : ∀ n, Shown artifacts d n → ∀ k, Shown artifacts d k → n.shortText = k.shortText → n = k

/-- Short names tell the name of a declaration and the types that it is given from one another, and
both from the names that are added to them. -/
def ToldApart (name : QualifiedName) (given : List TypeExpr) (added : List QualifiedName) : Prop :=
  ∀ n ∈ name :: packagedNames given, ∀ k ∈ name :: packagedNames given ++ added,
    n.shortText = k.shortText → n = k

instance (name : QualifiedName) (given : List TypeExpr) (added : List QualifiedName) :
    Decidable (ToldApart name given added) :=
  inferInstanceAs (Decidable (∀ n ∈ _, ∀ k ∈ _, _ → _))

section

variable {artifacts : List Artifact} {exempt : TypeExpr → Prop} {d : Declaration}

/-- An import that is needed stands for one of the types in the source. -/
theorem ImportsMatch.shown (matching : ImportsMatch artifacts exempt d) {i : TypeExpr}
    (member : i ∈ d.imports.types) : Shown artifacts d i.name := by
  obtain ⟨foreign, referred | parent | ⟨line, carried, behind⟩⟩ := matching.used i member
  · obtain ⟨t, among, rfl⟩ := referred
    obtain ⟨r, written, inside⟩ := Declaration.mem_references.1 among
    exact .written (mem_packagedNames.2 ⟨r, written, t, inside, foreign.1, rfl⟩)
  · exact .parent parent
  · exact .annotated carried behind

/-- If the names in a source are those that it is given and those that are added, and the latter do
not clash among themselves, it all depends on what is given. -/
theorem unambiguous_iff {given : List TypeExpr} {added : List QualifiedName}
    (matching : ImportsMatch artifacts exempt d)
    (plain : ∀ i ∈ d.imports.types, i = TypeExpr.ofName i.name)
    (shown : ∀ n, Shown artifacts d n ↔ n = d.name ∨ n ∈ packagedNames given ∨ n ∈ added)
    (apart : ∀ n ∈ added, ∀ k ∈ added, n.shortText = k.shortText → n = k) :
    Unambiguous artifacts d ↔ ToldApart d.name given added := by
  have shown' : ∀ n, Shown artifacts d n ↔ n ∈ d.name :: packagedNames given ++ added := by
    intro n
    rw [shown, List.cons_append, List.mem_cons, List.mem_append]
  constructor
  · intro clear n first k second same
    have isShown : Shown artifacts d n := (shown' n).2 (List.mem_append_left _ first)
    exact clear.shown n isShown k ((shown' k).2 second) same
  · intro told
    have all : ∀ n, Shown artifacts d n → ∀ k, Shown artifacts d k →
        n.shortText = k.shortText → n = k := by
      intro n first k second same
      rw [shown'] at first second
      rcases List.mem_append.1 first with given | addedFirst
      · exact told n given k second same
      · rcases List.mem_append.1 second with given | addedSecond
        · exact (told k given n first same.symm).symm
        · exact apart n addedFirst k addedSecond same
    have short : ∀ i ∈ d.imports.types, i.shortText = i.name.shortText := by
      intro i member
      rw [plain i member]
      rfl
    refine ⟨?_, ?_, all⟩
    · intro i first j second same
      rw [short i first, short j second] at same
      have names := all _ (matching.shown first) _ (matching.shown second) same
      rw [plain i first, plain j second, names]
    · intro i member same
      rw [short i member] at same
      have names := all _ (matching.shown member) _ .declared same
      -- What is imported lies in another package.
      have foreign := (matching.used i member).1.2.2
      rw [names] at foreign
      exact foreign rfl

end

/-! ## Record classes -/

namespace Record

variable {s : DomainSettings} {table : Table}

theorem exists_dateLines_of_mem {line : String}
    (carried : line ∈ (clean s table).annotationLines) :
    ∃ c ∈ table.columns, line ∈ dateLines s c := by
  rw [Declaration.annotationLines, List.mem_append, List.mem_flatMap] at carried
  rcases carried with none | ⟨f, field, among⟩
  · cases none
  · rw [clean] at field
    obtain ⟨i, below, rfl⟩ := List.mem_mapIdx.1 field
    exact ⟨table.columns[i], List.getElem_mem below, among⟩

/-- The names that decoration adds to the record class of a table. -/
def decorationNames (s : DomainSettings) (columns : List Column) : List QualifiedName :=
  (decorationTypes s columns).map (·.name)

/-- Decoration is of a few kinds, whatever the columns are. -/
theorem decorationNames_apart (columns : List Column) :
    ∀ n ∈ decorationNames s columns, ∀ k ∈ decorationNames s columns,
      n.shortText = k.shortText → n = k := by
  rw [decorationNames, decorationTypes]
  cases s.serializable <;> cases s.importsDates columns <;> cases s.json <;> decide

theorem shown_clean {artifacts : List Artifact}
    (named : ∀ a ∈ artifacts, a.declaration.kind = .interfaceType →
      a.declaration.name.unqualified ≠ serializableType.name.unqualified) (n : QualifiedName) :
    Shown artifacts (clean s table) n ↔ n = table.recordType.name ∨
      n ∈ packagedNames (table.columns.map (·.type)) ∨ n ∈ decorationNames s table.columns := by
  constructor
  · rintro (_ | member | ⟨behind⟩ | ⟨carried, behind⟩)
    · exact .inl rfl
    · obtain ⟨r, written, u, inside, packaged, rfl⟩ := mem_packagedNames.1 member
      rcases mem_writtenTypes_clean.1 written with ⟨-, rfl⟩ | ⟨c, among, rfl⟩
      · obtain rfl := List.mem_singleton.1 inside
        exact absurd rfl packaged
      · have column := List.mem_map_of_mem (f := Column.type) among
        exact .inr (.inl (mem_packagedNames.2 ⟨_, column, u, inside, packaged, rfl⟩))
    · obtain ⟨marked, rfl⟩ := eq_of_behindParent_clean named behind
      have added : serializableType ∈ decorationTypes s table.columns :=
        mem_decorationTypes.2 (.inl ⟨marked, rfl⟩)
      exact .inr (.inr (List.mem_map_of_mem added))
    · obtain ⟨c, among, date⟩ := exists_dateLines_of_mem carried
      have added := Participant.mem_decorationTypes_of_annotates among date behind
      exact .inr (.inr (List.mem_map_of_mem added))
  · rintro (rfl | member | member)
    · exact .declared
    · obtain ⟨r, column, u, inside, packaged, rfl⟩ := mem_packagedNames.1 member
      obtain ⟨c, among, rfl⟩ := List.mem_map.1 column
      have written := mem_writtenTypes_clean (s := s).2 (.inr ⟨c, among, rfl⟩)
      exact .written (mem_packagedNames.2 ⟨_, written, u, inside, packaged, rfl⟩)
    · obtain ⟨t, added, rfl⟩ := List.mem_map.1 member
      rcases decorationTypes_needed added with behind | ⟨line, carried, behind⟩
      · exact .parent behind
      · exact .annotated carried behind

theorem unambiguous_clean_iff {artifacts : List Artifact}
    (named : ∀ a ∈ artifacts, a.declaration.kind = .interfaceType →
      a.declaration.name.unqualified ≠ serializableType.name.unqualified) :
    Unambiguous artifacts (clean s table) ↔ ToldApart table.recordType.name
      (table.columns.map (·.type)) (decorationNames s table.columns) := by
  refine unambiguous_iff (importsMatch_clean artifacts named).1 ?_ (shown_clean named)
    (decorationNames_apart _)
  intro i member
  obtain ⟨n, -, rfl⟩ := TypeSet.mem_ofNames.1 member
  rfl

end Record

/-! ## Service artifacts -/

namespace Service

variable {artifacts : List Artifact} {package : PackagePath} {table : Table} {basic : TypeExpr}

/-- The types in the service artifacts of a table that come from the table and the settings. -/
def givenTypes (basic : TypeExpr) (table : Table) : List TypeExpr :=
  [basic, table.recordType.base, keyType table]

theorem mem_packagedNames_basicOf {record key : TypeExpr}
    (plain : basic = TypeExpr.ofName basic.name) {n : QualifiedName} :
    (∃ u ∈ (basicOf basic record key).occurrences, u.name.scope ≠ [] ∧ u.name.element = n) ↔
      n ∈ packagedNames [basic, record, key] := by
  have applied : (basicOf basic record key).occurrences =
      basicOf basic record key :: (record.occurrences ++ (key.occurrences ++ [])) := rfl
  have alone : basic.occurrences = [basic] := by
    rw [plain]
    rfl
  have same : (basicOf basic record key).name = basic.name := rfl
  rw [mem_packagedNames, applied]
  simp [alone, same, or_and_right, exists_or]

theorem shown_interfaceNamed (plain : basic = TypeExpr.ofName basic.name) (name n : QualifiedName) :
    Shown artifacts (interfaceNamed name table.recordType.base (keyType table) basic) n ↔
      n = name ∨ n ∈ packagedNames (givenTypes basic table) := by
  constructor
  · rintro (_ | member | ⟨behind⟩ | ⟨carried, behind⟩)
    · exact .inl rfl
    · obtain ⟨r, written, inside⟩ := mem_packagedNames.1 member
      obtain rfl := mem_writtenTypes_interfaceNamed.1 written
      exact .inr ((mem_packagedNames_basicOf plain).1 inside)
    · exact absurd behind (not_behindParent_interfaceNamed artifacts name _)
    · cases carried
  · rintro (rfl | member)
    · exact .declared
    · have inside := (mem_packagedNames_basicOf plain).2 member
      exact .written (mem_packagedNames.2 ⟨_, mem_writtenTypes_interfaceNamed.2 rfl, inside⟩)

theorem unambiguous_interfaceNamed_iff (plain : basic = TypeExpr.ofName basic.name)
    (name : QualifiedName) :
    Unambiguous artifacts (interfaceNamed name table.recordType.base (keyType table) basic) ↔
      ToldApart name (givenTypes basic table) [] := by
  refine unambiguous_iff (importsMatch_interfaceNamed artifacts name plain) ?_ ?_ ?_
  · intro i member
    obtain ⟨n, -, rfl⟩ := TypeSet.mem_ofNames.1 member
    rfl
  · intro n
    rw [shown_interfaceNamed plain]
    simp [interfaceNamed]
  · intro n none
    cases none

/-- Of all annotation types one is behind the line of a service class. -/
theorem eq_of_annotates {t : TypeExpr} (behind : Annotates "@Service" t) : t = annotationType := by
  generalize written : "@Service" = line at behind
  have third : line.toList[2]? = some 'e' := by
    rw [← written]
    decide
  cases behind with
  | service => rfl
  | dateTimeFormat pattern =>
    rw [Participant.third_dateTimeFormat] at third
    cases third
  | library _ own =>
    rcases Participant.third_annotationLine own with ⟨-, letter⟩ | ⟨-, letter⟩
    · rw [letter] at third
      cases third
    · rw [letter] at third
      cases third

theorem toList_shortText_interfaceName (package : PackagePath) (record : QualifiedName) :
    (interfaceName package record).shortText.toList =
      record.simple.text.toList ++ "Service".toList := by
  rw [QualifiedName.shortText, String.toList_append, String.toList_ofList]
  simp [interfaceName, QualifiedName.brackets]

/-- A service interface has more in its name than the annotation type behind its class. -/
theorem annotationType_ne_interfaceName (package : PackagePath) (record : QualifiedName) :
    annotationType.name.shortText ≠ (interfaceName package record).shortText := by
  intro same
  have texts := congrArg String.toList same
  rw [toList_shortText_interfaceName] at texts
  have lengths := congrArg List.length texts
  rw [List.length_append] at lengths
  have own : annotationType.name.shortText.toList.length = 7 := by decide
  have ending : "Service".toList.length = 7 := by decide
  have letters := List.length_pos_iff.2 record.simple.toList_ne_nil
  omega

theorem shown_implementationNamed {service : QualifiedName}
    (made : ∃ a ∈ artifacts, a.declaration.kind = .interfaceType ∧ a.declaration.name = service)
    (alike : ∀ a ∈ artifacts, a.declaration.kind = .interfaceType →
      a.declaration.name.unqualified = service.unqualified → a.declaration.name = service)
    (other : service.unqualified ≠ serializableType.name.unqualified)
    (plain : basic = TypeExpr.ofName basic.name) (name n : QualifiedName) :
    Shown artifacts
        (implementationNamed name service table.recordType.base (keyType table) basic) n ↔
      n = name ∨ n ∈ packagedNames (givenTypes basic table) ∨
        n ∈ [annotationType.name, service] := by
  constructor
  · rintro (_ | member | ⟨behind⟩ | ⟨carried, behind⟩)
    · exact .inl rfl
    · obtain ⟨r, written, inside⟩ := mem_packagedNames.1 member
      rcases mem_writtenTypes_implementationNamed.1 written with rfl | rfl
      · exact .inr (.inl ((mem_packagedNames_basicOf plain).1 inside))
      · obtain ⟨u, inside, packaged, -⟩ := inside
        obtain rfl := List.mem_singleton.1 inside
        exact absurd rfl packaged
    · obtain rfl := eq_of_behindParent_implementationNamed alike other behind
      exact .inr (.inr (List.mem_cons_of_mem _ List.mem_cons_self))
    · obtain rfl := List.mem_singleton.1 carried
      obtain rfl := eq_of_annotates behind
      exact .inr (.inr List.mem_cons_self)
  · rintro (rfl | member | member)
    · exact .declared
    · have inside := (mem_packagedNames_basicOf plain).2 member
      exact .written
        (mem_packagedNames.2 ⟨_, mem_writtenTypes_implementationNamed.2 (.inl rfl), inside⟩)
    · rcases List.mem_pair.1 member with rfl | rfl
      · exact .annotated List.mem_cons_self .service
      · exact .parent (behindParent_implementationNamed name made)

theorem unambiguous_implementationNamed_iff {record : QualifiedName}
    (made : ∃ a ∈ artifacts, a.declaration.kind = .interfaceType ∧
      a.declaration.name = interfaceName package record)
    (alike : ∀ a ∈ artifacts, a.declaration.kind = .interfaceType →
      a.declaration.name.unqualified = (interfaceName package record).unqualified →
        a.declaration.name = interfaceName package record)
    (plain : basic = TypeExpr.ofName basic.name) (name : QualifiedName) :
    Unambiguous artifacts (implementationNamed name (interfaceName package record)
        table.recordType.base (keyType table) basic) ↔
      ToldApart name (givenTypes basic table)
        [annotationType.name, interfaceName package record] := by
  have other := service_ne_serializable record.simple package.segments
  refine unambiguous_iff (importsMatch_implementationNamed made alike rfl other name plain) ?_
    (shown_implementationNamed made alike other plain name) ?_
  · intro i member
    obtain ⟨n, -, rfl⟩ := TypeSet.mem_ofNames.1 member
    rfl
  · have differ := annotationType_ne_interfaceName package record
    intro n first k second same
    rcases List.mem_pair.1 first with rfl | rfl <;> rcases List.mem_pair.1 second with rfl | rfl
    · rfl
    · exact absurd same differ
    · exact absurd same.symm differ
    · rfl

end Service

/-! ## Passes of the built-in plugins -/

/-- The declarations that the built-in plugins make for a table, each with the types that the table
and the settings name in it, and with the names that generation adds to them. -/
inductive MadeOf (d : DomainSettings) (s : ServiceSettings) (table : Table) :
    Declaration → List TypeExpr → List QualifiedName → Prop
  | record : MadeOf d s table (Record.clean d table) (table.columns.map (·.type))
      (Record.decorationNames d table.columns)
  | interface {package : PackagePath} {basic : TypeExpr} (place : s.targetPackage = some package)
      (base : s.basicService = some basic) :
      MadeOf d s table
        (Service.interfaceNamed (Service.interfaceName package table.recordType.name)
          table.recordType.base (Service.keyType table) basic)
        (Service.givenTypes basic table) []
  | implementation {package : PackagePath} {basic : TypeExpr}
      (place : s.targetPackage = some package) (base : s.basicServiceImpl = some basic) :
      MadeOf d s table
        (Service.implementationNamed (Service.implementationName package table.recordType.name)
          (Service.interfaceName package table.recordType.name) table.recordType.base
          (Service.keyType table) basic)
        (Service.givenTypes basic table)
        [Service.annotationType.name, Service.interfaceName package table.recordType.name]

/-- The service artifacts of a table can be read if what the table and the settings name can be told
apart, among artifacts that hold them and whose interfaces are service interfaces. -/
theorem Hooks.unambiguous_serviceArtifacts_iff {s : ServiceSettings} {table : Table}
    {a : Artifact} {artifacts : List Artifact}
    (plain : (∀ t, s.basicService = some t → t = TypeExpr.ofName t.name) ∧
      ∀ t, s.basicServiceImpl = some t → t = TypeExpr.ofName t.name)
    (held : ∀ b ∈ serviceArtifacts s table, b ∈ artifacts)
    (interfaces : InterfacesOf s artifacts) (member : a ∈ serviceArtifacts s table)
    (d : DomainSettings) :
    ∃ given added, MadeOf d s table a.declaration given added ∧
      (Unambiguous artifacts a.declaration ↔ ToldApart a.declaration.name given added) := by
  obtain ⟨among, together⟩ := mem_serviceArtifacts member
  obtain ⟨package, basic, place, base, -, built⟩ :=
    Service.built_of_ne_nil (List.ne_nil_of_mem among)
  rw [built, Service.builtIn] at among together
  rcases List.mem_cons.1 among with interface | implementation
  · rw [interface]
    exact ⟨_, _, .interface place base, Service.unambiguous_interfaceNamed_iff (plain.1 _ base) _⟩
  · obtain ⟨b, beside, interface⟩ := together _ List.mem_cons_self
    obtain ⟨impl, inner, made⟩ : ∃ impl, s.basicServiceImpl = some impl ∧
        a.declaration = Service.implementationNamed
          (Service.implementationName package table.recordType.name)
          (Service.interfaceName package table.recordType.name) table.recordType.base
          (Service.keyType table) impl := by
      cases inner : s.basicServiceImpl with
      | none =>
        rw [inner] at implementation
        cases implementation
      | some impl =>
        rw [inner] at implementation
        exact ⟨impl, rfl, List.mem_singleton.1 implementation⟩
    rw [made]
    refine ⟨_, _, .implementation place inner, ?_⟩
    refine Service.unambiguous_implementationNamed_iff ⟨b, held b beside, ?_, ?_⟩
      (interfaces.name_eq place table.recordType.name.simple) (plain.2 impl inner) _
    · rw [interface]
      rfl
    · rw [interface]
      rfl

namespace Pass

/-- Every artifact of a pass of the two built-in plugins, in either order and with settings that
were read from properties, is made from a table; the short names in its source stand for one type
each, and no two imports or an import and the declared type share theirs, just if the types that the
table and the settings name in it have short names that differ from one another, from that of the
declared type and from those of the types that generation adds. -/
theorem run_gives_unambiguous_iff {m : Type → Type} [Monad m] [LawfulMonad m] [MonadJournal m]
    (domainProperties serviceProperties : Properties) {s : ServiceSettings}
    (read : ServiceSettings.ofProperties serviceProperties = .ok s) {plugins : List (Plugin m)}
    (pair : plugins = [.domain (.ofProperties domainProperties), .service s] ∨
      plugins = [.service s, .domain (.ofProperties domainProperties)])
    (recordProject : String) (tables : List Table) :
    ∃ artifacts : List Artifact,
      Gives (run { plugins, recordProject } tables) { artifacts, warnings := [] } ∧
      ∀ a ∈ artifacts, ∃ table ∈ tables, ∃ given added,
        MadeOf (.ofProperties domainProperties) s table a.declaration given added ∧
          (Unambiguous artifacts a.declaration ↔ ToldApart a.declaration.name given added) := by
  set d := DomainSettings.ofProperties domainProperties
  have interfaces := Hooks.interfacesOf_builtIn d s recordProject tables
  refine ⟨_, gives_builtIn pair recordProject tables, ?_⟩
  intro a member
  rcases List.mem_append.1 member with isRecord | isService
  · obtain ⟨table, among, rfl⟩ := List.mem_map.1 isRecord
    exact ⟨table, among, _, _, .record,
      Record.unambiguous_clean_iff interfaces.ne_serializable⟩
  · obtain ⟨table, among, own⟩ := List.mem_flatMap.1 isService
    refine ⟨table, among, Hooks.unambiguous_serviceArtifacts_iff
      (ServiceSettings.base_of_ofProperties read) ?_ interfaces own d⟩
    intro b beside
    exact List.mem_append_right _ (List.mem_flatMap.2 ⟨table, among, beside⟩)

/-- A record class with a date of another library, and its service artifacts: every source can be
read. -/
theorem run_gives_unambiguous_iff_order :
    let properties : Properties := .ofList
      [("targetProject", "out"), ("targetPackage", "app"), ("basicService", "base.Basic"),
        ("basicServiceImpl", "base.impl.BasicImpl")]
    let settings : ServiceSettings :=
      { targetProject := some "out"
        targetPackage := some ⟨[⟨"app", by decide⟩], by decide⟩
        basicService := some (.ofName
          { scope := [⟨"base", by decide⟩], simple := ⟨"Basic", by decide⟩ })
        basicServiceImpl := some (.ofName
          { scope := [⟨"base", by decide⟩, ⟨"impl", by decide⟩]
            simple := ⟨"BasicImpl", by decide⟩ }) }
    let day : TypeExpr :=
      .ofName { scope := [⟨"calendar", by decide⟩], simple := ⟨"LocalDate", by decide⟩ }
    let table : Table :=
      { name := "ORDERS"
        recordType := .ofName { scope := [⟨"model", by decide⟩], simple := ⟨"Order", by decide⟩ }
        columns := [{ name := "PLACED", property := "placed", type := day }] }
    let decoration : Properties := .ofList [("serializable", "true"), ("dateSerialize", "true")]
    let pass : Pass Id :=
      { plugins := [.service settings, .domain (.ofProperties decoration)], recordProject := "out" }
    ServiceSettings.ofProperties properties = .ok settings ∧
      (run pass [table]).artifacts.map (fun a => (a.declaration.name.text,
        a.declaration.imports.types.map (·.shortText))) =
        [("model.Order", ["LocalDate", "Serializable", "DateTimeFormat"]),
          ("app.OrderService", ["Basic", "Order"]),
          ("app.impl.OrderServiceImpl", ["Service", "BasicImpl", "Order", "OrderService"])] ∧
      ∀ a ∈ (run pass [table]).artifacts,
        Unambiguous (run pass [table]).artifacts a.declaration := by
  intro properties settings day table decoration pass
  have read : ServiceSettings.ofProperties properties = .ok settings := by cbv
  have decorated : DomainSettings.ofProperties decoration =
      { serializable := true, dateSerialize := true } := by cbv
  refine ⟨read, ?_, ?_⟩
  · obtain ⟨journal, given⟩ := gives_builtIn (m := Id) (d := .ofProperties decoration)
      (s := settings) (.inr rfl) "out" [table]
    have made := congrArg PassOutput.artifacts given
    rw [decorated, List.flatMap_singleton,
      Hooks.serviceArtifacts_of_complete rfl rfl rfl rfl rfl] at made
    exact (congrArg _ made).trans rfl
  obtain ⟨artifacts, ⟨journal, given⟩, each⟩ :=
    run_gives_unambiguous_iff decoration properties read (.inr rfl) (m := Id) "out" [table]
  have output : (run pass [table]).artifacts = artifacts := congrArg PassOutput.artifacts given
  rw [output]
  intro a member
  obtain ⟨t, among, given, added, made, clear⟩ := each a member
  obtain rfl := List.mem_singleton.1 among
  rw [decorated] at made
  refine clear.2 ?_
  generalize a.declaration = d at made
  cases made with
  | record => decide
  | interface place base =>
    obtain rfl := Option.some.inj place
    obtain rfl := Option.some.inj base
    decide
  | implementation place base =>
    obtain rfl := Option.some.inj place
    obtain rfl := Option.some.inj base
    decide

/-- Two columns with dates of different packages: both are imported, and nothing tells which of them
a field has. -/
theorem run_imports_clash :
    let date (package : Identifier) : TypeExpr :=
      .ofName { scope := [.javaSegment, package], simple := ⟨"Date", by decide⟩ }
    let table : Table :=
      { name := "ORDERS"
        recordType := .ofName { scope := [⟨"model", by decide⟩], simple := ⟨"Order", by decide⟩ }
        columns :=
          [{ name := "PLACED", property := "placed", type := date ⟨"util", by decide⟩ },
            { name := "SHIPPED", property := "shipped", type := date ⟨"sql", by decide⟩ }] }
    let pass : Pass Id := { plugins := [.domain (.ofProperties {}), .service {}] }
    ServiceSettings.ofProperties {} = .ok {} ∧
      ∃ a ∈ (run pass [table]).artifacts, ∃ i ∈ a.declaration.imports.types,
        ∃ j ∈ a.declaration.imports.types, i ≠ j ∧ i.shortText = j.shortText := by
  intro date table pass
  refine ⟨rfl, { declaration := Record.clean {} table, targetProject := defaultRecordProject }, ?_,
    date ⟨"util", by decide⟩, ?_, date ⟨"sql", by decide⟩, ?_, by decide, rfl⟩
  · obtain ⟨journal, given⟩ := run_gives_cleanRecords (m := Id) {} {} defaultRecordProject [table]
    have made := congrArg PassOutput.artifacts given
    exact made ▸ List.mem_cons_self
  · decide
  · decide

end Pass

end RecordSynth
