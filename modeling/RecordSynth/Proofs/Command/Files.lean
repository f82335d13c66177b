import RecordSynth.Proofs.Command.Outcome
import RecordSynth.Proofs.Command.SourcePaths
import RecordSynth.Proofs.Service
/-!
# The files of a run

A run writes the sources of its artifacts one after another, so no artifact loses its file just if
all paths lead to different places. Record classes are told apart by their names, but the service
artifacts of a table are named after the simple name of its record type alone, and all of them lie in
the same packages of the same project.
-/

namespace RecordSynth

/-! ## Trees as disks -/

namespace FileTree

variable {t u : FileTree}

/-- The tree as a disk. -/
def disk : Disk FileTree where
  read := read
  write t path text :=
    let (t, written) := t.write path text.toUTF8.toList
    (if written then .ok () else .error (.storage path), t)

theorem disk_write_eq_ok_iff {path text : String} :
    disk.write t path text = (.ok (), u) ↔ t.write path text.toUTF8.toList = (u, true) := by
  have answered : disk.write t path text =
      (if (t.write path text.toUTF8.toList).2 then .ok () else .error (.storage path),
        (t.write path text.toUTF8.toList).1) := rfl
  rcases written : t.write path text.toUTF8.toList with ⟨w, done⟩
  rw [answered, written]
  cases done <;> simp

/-- What is written to other places leaves a file as it is. -/
theorem Holds.of_takes {files : List (String × String)} {path : String} {content : List UInt8}
    (sound : t.Sound) (holds : t.Holds path content) (taken : disk.Takes t files u)
    (apart : ∀ f ∈ files, t.placeOf f.1 ≠ t.placeOf path) : u.Holds path content := by
  induction taken with
  | nil => exact holds
  | @cons t w u other text files head rest ih =>
    rw [disk_write_eq_ok_iff] at head
    obtain ⟨sound', home, -⟩ := write_spec sound head
    have kept := holds.write sound head (apart (other, text) List.mem_cons_self)
    refine ih sound' kept ?_
    intro f later
    rw [placeOf_of_home home]
    exact apart f (List.mem_cons_of_mem _ later)

/-- Files that are written to different places are all there in the end. -/
theorem holds_of_takes {files : List (String × String)} (taken : disk.Takes t files u)
    (sound : t.Sound) (apart : (files.map fun f => t.placeOf f.1).Nodup) :
    ∀ f ∈ files, u.Holds f.1 f.2.toUTF8.toList := by
  induction taken with
  | nil => simp
  | cons head rest ih =>
    rw [disk_write_eq_ok_iff] at head
    obtain ⟨sound', home, holds, -⟩ := write_spec sound head
    have places := placeOf_of_home home
    obtain ⟨alone, others⟩ := List.nodup_cons.1 apart
    intro f member
    rcases List.mem_cons.1 member with rfl | later
    · refine holds.of_takes sound' rest ?_
      intro g later same
      rw [places] at same
      exact alone (List.mem_map.2 ⟨g, later, same⟩)
    · refine ih sound' ?_ f later
      rw [places]
      exact others

end FileTree

/-! ## The names of services -/

namespace Hooks

variable {s : ServiceSettings} {table : Table}

/-- All service artifacts are for the project of the settings. -/
theorem targetProject_of_mem {a : Artifact} (member : a ∈ serviceArtifacts s table) :
    s.targetProject = some a.targetProject := by
  unfold serviceArtifacts at member
  split at member
  · rename_i project
    obtain ⟨d, -, rfl⟩ := List.mem_map.1 member
    exact project
  · cases member

/-- The names of the service artifacts of a table: there are none, or that of the interface and maybe
that of the class behind it. -/
theorem names_serviceArtifacts (s : ServiceSettings) (table : Table) :
    serviceArtifacts s table = [] ∨ ∃ package, s.targetPackage = some package ∧
      (serviceArtifacts s table).map (·.declaration.name) =
        Service.interfaceName package table.recordType.name ::
          (s.basicServiceImpl.map fun _ =>
            Service.implementationName package table.recordType.name).toList := by
  unfold serviceArtifacts
  split
  · by_cases none : Service.built table s = []
    · left
      rw [none]
      rfl
    · right
      obtain ⟨package, basic, place, -, -, made⟩ := Service.built_of_ne_nil none
      refine ⟨package, place, ?_⟩
      rw [made, List.map_map, Service.builtIn]
      cases s.basicServiceImpl <;> rfl
  · exact .inl rfl

theorem name_of_mem {a : Artifact} (member : a ∈ serviceArtifacts s table) :
    ∃ package, s.targetPackage = some package ∧
      (a.declaration.name = Service.interfaceName package table.recordType.name ∨
        a.declaration.name = Service.implementationName package table.recordType.name) := by
  rcases names_serviceArtifacts s table with none | ⟨package, place, names⟩
  · rw [none] at member
    cases member
  · refine ⟨package, place, ?_⟩
    have name := List.mem_map_of_mem (f := fun a : Artifact => a.declaration.name) member
    rw [names] at name
    rcases List.mem_cons.1 name with interface | implementation
    · exact .inl interface
    · rw [Option.mem_toList] at implementation
      obtain ⟨impl, -, same⟩ := Option.mem_map.1 implementation
      exact .inr same.symm

theorem exists_interface (given : serviceArtifacts s table ≠ []) :
    ∃ package, s.targetPackage = some package ∧ ∃ a ∈ serviceArtifacts s table,
      a.declaration.name = Service.interfaceName package table.recordType.name := by
  rcases names_serviceArtifacts s table with none | ⟨package, place, names⟩
  · exact absurd none given
  · have name : Service.interfaceName package table.recordType.name ∈
        (serviceArtifacts s table).map (·.declaration.name) := by
      rw [names]
      exact List.mem_cons_self
    obtain ⟨a, member, same⟩ := List.mem_map.1 name
    exact ⟨package, place, a, member, same⟩

/-- The interface and the class of a table have different names. -/
theorem nodup_names (s : ServiceSettings) (table : Table) :
    ((serviceArtifacts s table).map (·.declaration.name)).Nodup := by
  rcases names_serviceArtifacts s table with none | ⟨package, -, names⟩
  · rw [none]
    exact List.nodup_nil
  · rw [names]
    cases s.basicServiceImpl with
    | none => exact List.nodup_singleton _
    | some impl =>
      have differ := Service.interfaceName_ne_implementationName package
        table.recordType.name table.recordType.name
      rw [Option.map_some, Option.toList_some, List.nodup_cons, List.mem_singleton]
      exact ⟨differ, List.nodup_singleton _⟩

/-- All service artifacts are for one project, so their names tell their places. -/
theorem placeOf_path_inj {t : FileTree} {out : String} {a b : Table} {x y : Artifact}
    (first : x ∈ serviceArtifacts s a) (second : y ∈ serviceArtifacts s b) :
    t.placeOf (x.path out) = t.placeOf (y.path out) ↔ x.declaration.name = y.declaration.name := by
  have projects := (targetProject_of_mem first).symm.trans (targetProject_of_mem second)
  exact Artifact.placeOf_path_inj (Option.some.inj projects)

theorem disjoint_places_iff {t : FileTree} {out : String} {a b : Table} :
    List.Disjoint ((serviceArtifacts s a).map fun made => t.placeOf (made.path out))
        ((serviceArtifacts s b).map fun made => t.placeOf (made.path out)) ↔
      (serviceArtifacts s a ≠ [] → serviceArtifacts s b ≠ [] →
        a.recordType.name.simple ≠ b.recordType.name.simple) := by
  constructor
  · intro disjoint given given' same
    obtain ⟨package, place, x, first, interface⟩ := exists_interface given
    obtain ⟨package', place', y, second, interface'⟩ := exists_interface given'
    obtain rfl : package = package' := Option.some.inj (place.symm.trans place')
    have names : x.declaration.name = y.declaration.name := by
      rw [interface, interface', Service.interfaceName_inj]
      exact same
    refine disjoint (List.mem_map.2 ⟨x, first, rfl⟩) (List.mem_map.2 ⟨y, second, ?_⟩)
    exact ((placeOf_path_inj first second).2 names).symm
  · intro differ place first second
    obtain ⟨x, among, rfl⟩ := List.mem_map.1 first
    obtain ⟨y, among', places⟩ := List.mem_map.1 second
    have names := (placeOf_path_inj among among').1 places.symm
    obtain ⟨package, place, own⟩ := name_of_mem among
    obtain ⟨package', place', own'⟩ := name_of_mem among'
    obtain rfl : package = package' := Option.some.inj (place.symm.trans place')
    have simple := differ (List.ne_nil_of_mem among) (List.ne_nil_of_mem among')
    rcases own with own | own <;> rcases own' with own' | own' <;> rw [own, own'] at names
    · exact simple (Service.interfaceName_inj.1 names)
    · exact Service.interfaceName_ne_implementationName _ _ _ names
    · exact Service.interfaceName_ne_implementationName _ _ _ names.symm
    · exact simple (Service.implementationName_inj.1 names)

theorem nodup_places (t : FileTree) (out : String) (table : Table) :
    ((serviceArtifacts s table).map fun made => t.placeOf (made.path out)).Nodup := by
  have names := nodup_names s table
  rw [List.Nodup, List.pairwise_map] at names ⊢
  refine names.imp_of_mem ?_
  intro x y first second differ same
  exact differ ((placeOf_path_inj first second).1 same)

end Hooks

/-! ## Files of their own -/

/-- Every artifact of a run has a file of its own: no two record types have the same name, whatever
their arguments; no two that have services have the same simple name, whatever their packages; and no
record class lies where a service artifact does. -/
structure OwnFiles (t : FileTree) (out : String) (settings : RunSettings)
    (service : ServiceSettings) (tables : List Table) : Prop where
  records : tables.Pairwise fun a b => a.recordType.name ≠ b.recordType.name
  services : tables.Pairwise fun a b =>
    Hooks.serviceArtifacts service a ≠ [] → Hooks.serviceArtifacts service b ≠ [] →
      a.recordType.name.simple ≠ b.recordType.name.simple
  apart : ∀ a ∈ tables, ∀ b ∈ tables, ∀ made ∈ Hooks.serviceArtifacts service b,
    t.placeOf ((settings.recordOf a).path out) ≠ t.placeOf (made.path out)

theorem RunSettings.nodup_places_iff {t : FileTree} {out : String} {settings : RunSettings}
    {service : ServiceSettings} {tables : List Table} :
    ((settings.artifacts service tables).map fun a => t.placeOf (a.path out)).Nodup ↔
      OwnFiles t out settings service tables := by
  have records : ((tables.map settings.recordOf).map fun a => t.placeOf (a.path out)).Nodup ↔
      tables.Pairwise fun a b => a.recordType.name ≠ b.recordType.name := by
    rw [List.map_map, List.Nodup, List.pairwise_map]
    refine List.Pairwise.iff ?_
    intro a b
    have places : t.placeOf ((settings.recordOf a).path out) =
        t.placeOf ((settings.recordOf b).path out) ↔
          (settings.recordOf a).declaration.name = (settings.recordOf b).declaration.name :=
      Artifact.placeOf_path_inj rfl
    rw [Function.comp_apply, Function.comp_apply, ne_eq, places]
    rfl
  have services : ((tables.flatMap (Hooks.serviceArtifacts service)).map
      fun a => t.placeOf (a.path out)).Nodup ↔ tables.Pairwise fun a b =>
        Hooks.serviceArtifacts service a ≠ [] → Hooks.serviceArtifacts service b ≠ [] →
          a.recordType.name.simple ≠ b.recordType.name.simple := by
    rw [List.map_flatMap, List.nodup_flatMap]
    have own : ∀ table ∈ tables, ((Hooks.serviceArtifacts service table).map
        fun a => t.placeOf (a.path out)).Nodup := fun table _ => Hooks.nodup_places t out table
    rw [and_iff_right own]
    refine List.Pairwise.iff ?_
    intro a b
    exact Hooks.disjoint_places_iff
  have whole : settings.artifacts service tables =
      tables.map settings.recordOf ++ tables.flatMap (Hooks.serviceArtifacts service) := rfl
  rw [whole, List.map_append, List.nodup_append', records, services]
  constructor
  · rintro ⟨first, second, disjoint⟩
    refine ⟨first, second, ?_⟩
    intro a member b member' made among same
    refine disjoint (List.mem_map.2 ⟨_, List.mem_map_of_mem member, rfl⟩) ?_
    exact List.mem_map.2 ⟨made, List.mem_flatMap.2 ⟨b, member', among⟩, same.symm⟩
  · intro own
    refine ⟨own.records, own.services, ?_⟩
    intro place first second
    obtain ⟨x, isRecord, rfl⟩ := List.mem_map.1 first
    obtain ⟨a, member, rfl⟩ := List.mem_map.1 isRecord
    obtain ⟨made, isService, same⟩ := List.mem_map.1 second
    obtain ⟨b, member', among⟩ := List.mem_flatMap.1 isService
    exact own.apart a member b member' made among same.symm

namespace GenerateRequest

/-- After a run the paths that it gives lead to different places, and the file at each holds the
source of its artifact, just if every artifact has a file of its own. -/
theorem run_files_iff {r : GenerateRequest} {journal journal' : Journal} {t : FileTree}
    {last : InUse FileTree} {paths : List String} (sound : t.Sound) (real : r.dryRun = false)
    (ran : ((r.run FileTree.disk.host).run.run journal).run { state := t } =
      ((.ok paths, journal'), last)) :
    ∃ schema settings pass service, r.inputs.Loads t.read schema settings pass ∧
      ServiceSettings.ofProperties settings.service = .ok service ∧
      let artifacts := settings.artifacts service schema.tables
      (pass.run schema.tables : PassOutput) = { artifacts, warnings := [] } ∧
        paths = artifacts.map (·.path r.out) ∧
        (((paths.map t.placeOf).Nodup ∧
            ∀ a ∈ artifacts, last.state.read (a.path r.out) = .ok a.declaration.source) ↔
          OwnFiles t r.out settings service schema.tables) := by
  obtain ⟨_, _, course⟩ := exists_course FileTree.disk r t
  obtain ⟨rfl, rfl⟩ := (course.comesTo real).eq_of_run ran
  cases course with
  | @finished schema settings pass u loads taken =>
    obtain ⟨service, read, -⟩ := RunSettings.gives_artifacts loads.ofPass
    have made := RunSettings.run_eq loads.ofPass read schema.tables
    refine ⟨schema, settings, pass, service, loads, read, made, ?_⟩
    rw [made] at taken ⊢
    refine ⟨PassOutput.map_fst_files _ r.out, ?_⟩
    have places : ((settings.artifacts service schema.tables).map (·.path r.out)).map t.placeOf =
        (settings.artifacts service schema.tables).map fun a => t.placeOf (a.path r.out) :=
      List.map_map
    rw [PassOutput.map_fst_files, places, RunSettings.nodup_places_iff, and_iff_left_iff_imp]
    intro own a member
    have apart : (((settings.artifacts service schema.tables).map
        fun a => (a.path r.out, a.declaration.source)).map fun f => t.placeOf f.1).Nodup := by
      simpa only [List.map_map, Function.comp_def] using RunSettings.nodup_places_iff.2 own
    have holds : u.Holds (a.path r.out) a.declaration.source.toUTF8.toList :=
      FileTree.holds_of_takes taken sound apart (a.path r.out, a.declaration.source)
        (List.mem_map.2 ⟨a, member, rfl⟩)
    exact holds.read

set_option maxRecDepth 4000 in
/-- Users of two packages: their services are written to one file. -/
theorem run_files_iff_users :
    let source := "\x7b\"tables\":[\x7b\"name\":\"u\",\"recordType\":\"a.User\"\x7d," ++
      "\x7b\"name\":\"v\",\"recordType\":\"b.User\"\x7d]\x7d"
    let t := (FileTree.write {} "schema.json" source.toUTF8.toList).1
    let r : GenerateRequest :=
      { inputs :=
          { schema := "schema.json"
            serviceProperties := [("targetProject", "service"), ("targetPackage", "app"),
              ("basicService", "base.Basic")] }
        out := "" }
    let paths := ["src/main/java/a/User.java", "src/main/java/b/User.java",
      "service/app/UserService.java", "service/app/UserService.java"]
    t.Sound ∧ r.dryRun = false ∧
      ∃ journal last, ((r.run FileTree.disk.host).run.run []).run { state := t } =
          ((.ok paths, journal), last) ∧
        ∃ schema settings pass service, r.inputs.Loads t.read schema settings pass ∧
          ServiceSettings.ofProperties settings.service = .ok service ∧
          schema.tables.map (·.recordType.text) = ["a.User", "b.User"] ∧
          ¬ OwnFiles t r.out settings service schema.tables := by
  intro source t r paths
  let userOf (name : String) (package : Identifier) : Table :=
    { name := name
      recordType := .ofName { scope := [package], simple := ⟨"User", by decide⟩ } }
  let tables := [userOf "u" ⟨"a", by decide⟩, userOf "v" ⟨"b", by decide⟩]
  let settings : RunSettings := ({} : RunSettings).assign r.inputs.serviceProperties []
  let service : ServiceSettings :=
    { targetProject := some "service"
      targetPackage := some ⟨[⟨"app", by decide⟩], by decide⟩
      basicService := some (.ofName
          { scope := [⟨"base", by decide⟩], simple := ⟨"Basic", by decide⟩ }) }
  have parsed : Schema.parse .json source = .ok { tables } := by cbv
  have read : ServiceSettings.ofProperties settings.service = .ok service := by cbv
  have json : DocumentFormat.ofPath r.inputs.schema = .json := by decide +kernel
  have listed : (settings.artifacts service tables).map (·.path r.out) = paths := by decide +kernel
  have placed : (FileTree.write {} "schema.json" source.toUTF8.toList).2 = true := by
    decide +kernel
  obtain ⟨sound, found⟩ : t.Sound ∧ t.read r.inputs.schema = .ok source :=
    FileTree.read_write FileTree.sound_empty placed
  obtain ⟨pass, made⟩ : ∃ pass : Pass Id, settings.pass = .ok pass := by
    rw [RunSettings.pass, read]
    exact ⟨_, rfl⟩
  have loads : r.inputs.Loads t.read { tables } settings pass :=
    ⟨⟨source, found, json ▸ parsed⟩, .assigned rfl, made⟩
  have output := RunSettings.run_eq made read tables
  -- The contents are left alone: whether they can be written depends on the paths only.
  obtain ⟨u, taken⟩ : ∃ u, FileTree.disk.Takes t
      ((settings.artifacts service tables).map fun a => (a.path r.out, a.declaration.source)) u :=
    Disk.exists_takes_of_run (by decide +kernel)
  have course : Course FileTree.disk r t _ _ :=
    .finished loads (by rw [output]; exact taken)
  obtain ⟨journal, ran⟩ := course.comesTo rfl []
  rw [PassOutput.map_fst_files, output, listed] at ran
  refine ⟨sound, rfl, journal, _, ran, ?_⟩
  obtain ⟨schema, settings, pass, service, loads', read', -, -, own⟩ :=
    run_files_iff sound rfl ran
  obtain ⟨source', found', parsed'⟩ := loads'.ofSchema
  obtain rfl := Except.ok.inj (found.symm.trans found')
  rw [json, parsed] at parsed'
  obtain rfl := Except.ok.inj parsed'
  refine ⟨_, settings, pass, service, loads', read', rfl, ?_⟩
  intro all
  have apart : (paths.map t.placeOf).Nodup := (own.2 all).1
  revert apart
  decide

end GenerateRequest

end RecordSynth
