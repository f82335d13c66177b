import RecordSynth.Proofs.Pass.BuiltIn
import RecordSynth.Proofs.Record
/-!
# The record classes of a pass

The service plugin leaves record classes alone, so it does not matter where it stands: every record
class is what the domain plugin makes of it, and no table loses its own.
-/

namespace RecordSynth

namespace Hooks

/-- Hooks that keep every field and every record class as it is. -/
def Idle (h : Hooks) : Prop :=
  (∀ f d c table kind, h.field f d c table kind = (f, true)) ∧
    ∀ d table, h.declaration d table = (d, true)

theorem service_idle (s : ServiceSettings) : (service s).Idle :=
  ⟨fun _ _ _ _ _ => rfl, fun _ _ => rfl⟩

theorem keepAll_append {α : Type} (ask : Hooks → α → α × Bool) (hs ks : List Hooks) (a : α) :
    keepAll ask (hs ++ ks) a = (keepAll ask hs a).bind (keepAll ask ks) := by
  induction hs generalizing a with
  | nil => rfl
  | cons h hs ih =>
    rw [List.cons_append, keepAll, keepAll]
    split
    · exact ih _
    · rfl

theorem keepAll_of_idle {α : Type} {ask : Hooks → α → α × Bool} {hooks : List Hooks}
    (idle : ∀ h ∈ hooks, ∀ a, ask h a = (a, true)) (a : α) : keepAll ask hooks a = some a := by
  induction hooks with
  | nil => rfl
  | cons h hs ih =>
    have rest := ih fun k member => idle k (List.mem_cons_of_mem h member)
    rw [keepAll, idle h List.mem_cons_self a]
    exact rest

/-- Among idle hooks, those of the domain plugin alone decide about record classes. -/
theorem record_of_idle {before after : List Hooks} (first : ∀ h ∈ before, h.Idle)
    (last : ∀ h ∈ after, h.Idle) (s : DomainSettings) (table : Table) :
    record (before ++ domain s :: after) table = some (Record.clean s table) := by
  have field : ∀ d c f,
      keepField d c table (before ++ domain s :: after) f = some (f.decorated s) := by
    intro d c f
    have start : ∀ h ∈ before, ∀ f, h.field f d c table .baseRecord = (f, true) :=
      fun h member f => (first h member).1 f d c table _
    rw [keepField, keepAll_append, keepAll_of_idle start, Option.bind_some]
    exact keepAll_of_idle (fun h member f => (last h member).1 f d c table _) _
  have declaration : ∀ d, keepDeclaration table (before ++ domain s :: after) d =
      some (d.finished s table.columns) := by
    intro d
    have start : ∀ h ∈ before, ∀ d, h.declaration d table = (d, true) :=
      fun h member d => (first h member).2 d table
    rw [keepDeclaration, keepAll_append, keepAll_of_idle start, Option.bind_some]
    exact keepAll_of_idle (fun h member d => (last h member).2 d table) _
  have added : addColumn (before ++ domain s :: after) table =
      fun d c => Record.addProperty d c ((Record.field c).decorated s) := by
    funext d c
    rw [addColumn, field]
  have whole : properties (before ++ domain s :: after) table = Record.withProperties table
      (table.columns.map fun c => (c, (Record.field c).decorated s)) := by
    rw [properties, added, Record.withProperties, List.foldl_map]
  rw [record, whole, declaration, Declaration.finished,
    Declaration.decorated_stripMarker_withProperties]

theorem records_eq_map {hooks : List Hooks} {made : Table → Declaration}
    (each : ∀ table, record hooks table = some (made table)) (recordProject : String)
    (tables : List Table) :
    records hooks recordProject tables =
      tables.map fun table => { declaration := made table, targetProject := recordProject } := by
  simp only [records, each, Option.map_some]
  exact congrFun List.filterMap_eq_map tables

/-- What the service plugin adds for a table: nothing if it is disabled or has no project. -/
def serviceArtifacts (s : ServiceSettings) (table : Table) : List Artifact :=
  match s.disable, s.targetProject with
  | false, some targetProject =>
    (Service.built table s).map fun declaration => { declaration, targetProject }
  | _, _ => []

/-- In either order, the built-in hooks make the clean record classes of all tables, followed by
what the service plugin adds for them. -/
theorem output_builtIn {d : DomainSettings} {s : ServiceSettings} {hooks : List Hooks}
    (pair : hooks = [domain d, service s] ∨ hooks = [service s, domain d]) (recordProject : String)
    (tables : List Table) :
    output hooks recordProject tables =
      { artifacts :=
          (tables.map fun table =>
            { declaration := Record.clean d table, targetProject := recordProject }) ++
            tables.flatMap (serviceArtifacts s)
        warnings := [] } := by
  have idle : ∀ h ∈ [service s], h.Idle := by
    intro h member
    rw [List.mem_singleton.1 member]
    exact service_idle s
  have none : ∀ h ∈ ([] : List Hooks), h.Idle := by simp
  have quiet : ∀ h ∈ hooks, h.Quiet := by
    rcases pair with rfl | rfl <;> simp [Quiet, active, domain, service]
  have takes : (domain d).active = true := rfl
  have taken : (service s).active = !s.disable := rfl
  have parts : (∀ table, record (hooks.filter (·.active)) table = some (Record.clean d table)) ∧
      ∀ table, (hooks.filter (·.active)).flatMap (·.extras table) = serviceArtifacts s table := by
    cases disabled : s.disable with
    | true =>
      rw [disabled] at taken
      have active : hooks.filter (·.active) = [domain d] := by
        rcases pair with rfl | rfl <;> simp [takes, taken]
      rw [active]
      refine ⟨record_of_idle none none d, ?_⟩
      intro table
      simp [domain, serviceArtifacts, disabled]
    | false =>
      rw [disabled] at taken
      have active : hooks.filter (·.active) = hooks := by
        rcases pair with rfl | rfl <;> simp [takes, taken]
      have own : ∀ table, (service s).extras table = serviceArtifacts s table := by
        intro table
        simp only [service, serviceArtifacts, disabled]
        cases s.targetProject <;> rfl
      rw [active]
      refine ⟨?_, ?_⟩
      · rcases pair with rfl | rfl
        · exact record_of_idle none idle d
        · exact record_of_idle idle none d
      · intro table
        rw [← own]
        rcases pair with rfl | rfl <;> simp [domain]
  simp only [output, takePart_of_quiet quiet, records_eq_map parts.1, allExtras, parts.2]

end Hooks

/-! ## Passes of the built-in plugins -/

namespace Pass

/-- A pass of the two built-in plugins in either order makes, in any monad, what their hooks make. -/
theorem gives_builtIn {m : Type → Type} [Monad m] [LawfulMonad m] [MonadJournal m]
    {d : DomainSettings} {s : ServiceSettings} {plugins : List (Plugin m)}
    (pair : plugins = [.domain d, .service s] ∨ plugins = [.service s, .domain d])
    (recordProject : String) (tables : List Table) :
    Gives (run { plugins, recordProject } tables)
      { artifacts :=
          (tables.map fun table =>
            { declaration := Record.clean d table, targetProject := recordProject }) ++
            tables.flatMap (Hooks.serviceArtifacts s)
        warnings := [] } := by
  have gives : ∃ hooks, List.Forall₂ Plugin.Follows plugins hooks ∧
      (hooks = [Hooks.domain d, Hooks.service s] ∨ hooks = [Hooks.service s, Hooks.domain d]) := by
    rcases pair with rfl | rfl
    · exact ⟨_, .cons (Plugin.domain_follows d) (.cons (Plugin.service_follows s) .nil), .inl rfl⟩
    · exact ⟨_, .cons (Plugin.service_follows s) (.cons (Plugin.domain_follows d) .nil), .inr rfl⟩
  obtain ⟨hooks, follow, order⟩ := gives
  have given := gives_output follow recordProject tables
  rwa [Hooks.output_builtIn order] at given

/-- A pass of the domain plugin and the service plugin makes, in any monad, one clean record class
for each table, in the order of tables and for the project of record classes, and behind these what
the service plugin adds. It has no warnings. -/
theorem run_gives_cleanRecords {m : Type → Type} [Monad m] [LawfulMonad m] [MonadJournal m]
    (d : DomainSettings) (s : ServiceSettings) (recordProject : String) (tables : List Table) :
    Gives (run { plugins := [.domain d, .service s], recordProject } tables : m PassOutput)
      { artifacts :=
          (tables.map fun table =>
            { declaration := Record.clean d table, targetProject := recordProject }) ++
            tables.flatMap (Hooks.serviceArtifacts s)
        warnings := [] } := by
  have follow : List.Forall₂ Plugin.Follows [Plugin.domain (m := m) d, Plugin.service s]
      [Hooks.domain d, Hooks.service s] :=
    .cons (Plugin.domain_follows d) (.cons (Plugin.service_follows s) .nil)
  have given := gives_output follow recordProject tables
  rwa [Hooks.output_builtIn (.inl rfl)] at given

/-- A table with a key and a date, decorated for all that is on offer. -/
theorem run_gives_cleanRecords_person :
    let id : Column :=
      { name := "ID", property := "id", type := .ofName (.implicit ⟨"Long", by decide⟩) }
    let born : TypeExpr :=
      .ofName { scope := [⟨"java", by decide⟩, ⟨"time", by decide⟩],
                simple := ⟨"LocalDate", by decide⟩ }
    let table : Table :=
      { name := "PERSON"
        recordType := .ofName { scope := [⟨"model", by decide⟩], simple := ⟨"Person", by decide⟩ }
        columns := [id, { name := "BORN", property := "born", type := born }] }
    let pass : Pass Id :=
      { plugins := [.domain { serializable := true, dateSerialize := true, json := .jackson },
          .service {}]
        recordProject := "out" }
    ∃ record : Declaration,
      (run pass [table]).artifacts = [{ declaration := record, targetProject := "out" }] ∧
      record.fields =
        [{ name := "id", type := id.type, docLines := [""] },
         { name := "born", type := born,
           annotations := ["@JsonFormat(pattern=\"yyyy-MM-dd\")",
             "@DateTimeFormat(pattern = \"yyyy-MM-dd\")"] }] ∧
      record.methods.map (·.name) = ["getId", "setId", "getBorn", "setBorn"] ∧
      record.superInterfaces.types.map (·.text) = ["Serializable"] ∧
      record.imports.types.map (·.text) =
        ["java.time.LocalDate", "java.io.Serializable",
          "com.fasterxml.jackson.annotation.JsonFormat",
          "org.springframework.format.annotation.DateTimeFormat"] := by
  intro id born table pass
  obtain ⟨journal, given⟩ := run_gives_cleanRecords (m := Id)
    { serializable := true, dateSerialize := true, json := .jackson } {} "out" [table]
  refine ⟨Record.clean { serializable := true, dateSerialize := true, json := .jackson } table,
    ?_, ?_, ?_, ?_, ?_⟩
  · rw [given]
    rfl
  · rfl
  · decide
  · decide
  · decide

end Pass

end RecordSynth
