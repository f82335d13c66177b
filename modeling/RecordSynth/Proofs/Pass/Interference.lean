import RecordSynth.Proofs.Pass.Independence
import RecordSynth.Proofs.Pass.Records
/-!
# Plugins that stay apart

Domain plugins change record classes and add nothing, service plugins add artifacts and leave record
classes alone, and inert plugins do neither. So each half of an output is made by the plugins of one
kind, in their order among themselves, whatever plugins of other kinds stand between them.
-/

namespace RecordSynth

/-- The plugins that come with the generator, in any settings, and those that only take part. -/
inductive BuiltIn where
  | domain (s : DomainSettings)
  | service (s : ServiceSettings)
  | inert (name : String)

namespace BuiltIn

/-- The plugin. -/
def plugin {m : Type → Type} [Monad m] [MonadJournal m] : BuiltIn → Plugin m
  | domain s => .domain s
  | service s => .service s
  | inert name => .inert name

/-- Whether it is a domain plugin. -/
def isDomain : BuiltIn → Bool
  | domain _ => true
  | _ => false

/-- Whether it is a service plugin that is not disabled. -/
def isEnabledService : BuiltIn → Bool
  | service s => !s.disable
  | _ => false

/-- The hooks of the plugin. -/
def hooks : BuiltIn → Hooks
  | domain s => .domain s
  | service s => .service s
  | inert name => { name }

theorem plugin_follows {m : Type → Type} [Monad m] [MonadJournal m] [LawfulMonad m] (b : BuiltIn) :
    (b.plugin : Plugin m).Follows b.hooks := by
  cases b with
  | domain s => exact Plugin.domain_follows s
  | service s => exact Plugin.service_follows s
  | inert name =>
    exact
      { name := rfl
        validate := fun _ => .pure _
        fieldCreated := fun _ _ _ _ _ => .pure _
        declarationCreated := fun _ _ => .pure _
        additionalArtifacts := fun _ => .pure _ }

theorem plugins_follow {m : Type → Type} [Monad m] [MonadJournal m] [LawfulMonad m]
    (bs : List BuiltIn) :
    List.Forall₂ Plugin.Follows (bs.map fun b => (b.plugin : Plugin m)) (bs.map (·.hooks)) := by
  rw [List.forall₂_map_left_iff, List.forall₂_map_right_iff, List.forall₂_same]
  exact fun b _ => b.plugin_follows

theorem active_of_isDomain {b : BuiltIn} (domain : b.isDomain = true) : b.hooks.active = true := by
  cases b with
  | domain s => rfl
  | service s => cases domain
  | inert name => cases domain

/-- Only domain plugins do anything to fields and record classes. -/
theorem idle_of_not_isDomain {b : BuiltIn} (other : b.isDomain = false) : b.hooks.Idle := by
  cases b with
  | domain s => cases other
  | service s => exact Hooks.service_idle s
  | inert name => exact ⟨fun _ _ _ _ _ => rfl, fun _ _ => rfl⟩

/-- Only service plugins that are not disabled take part and add anything. -/
theorem extras_eq_nil {b : BuiltIn} (active : b.hooks.active = true)
    (other : b.isEnabledService = false) (table : Table) : b.hooks.extras table = [] := by
  cases b with
  | domain s => rfl
  | service s =>
    have enabled : (BuiltIn.service s).isEnabledService = true := active
    cases other.symm.trans enabled
  | inert name => rfl

theorem active_of_isEnabledService {b : BuiltIn} (service : b.isEnabledService = true) :
    b.hooks.active = true := by
  cases b with
  | domain s => cases service
  | service s => exact service
  | inert name => cases service

theorem hooks_quiet (b : BuiltIn) : b.hooks.Quiet := by
  intro warnings
  cases b <;> rfl

end BuiltIn

namespace Hooks

/-! ## Hooks that may be left out -/

section

variable {ι : Type} {hooks : ι → Hooks} {keep : ι → Bool} {is : List ι}

theorem keepAll_filter {α : Type} {ask : Hooks → α → α × Bool}
    (idle : ∀ i ∈ is, keep i = false → ∀ a, ask (hooks i) a = (a, true)) (a : α) :
    keepAll ask ((is.filter keep).map hooks) a = keepAll ask (is.map hooks) a := by
  induction is generalizing a with
  | nil => rfl
  | cons i is ih =>
    have rest := fun b => ih (fun j member => idle j (List.mem_cons_of_mem i member)) b
    cases kept : keep i with
    | true =>
      rw [List.filter_cons_of_pos kept, List.map_cons, List.map_cons, keepAll, keepAll]
      split
      · exact rest _
      · rfl
    | false =>
      have same := idle i List.mem_cons_self kept a
      rw [List.filter_cons_of_neg (by simp [kept]), List.map_cons, keepAll, same]
      exact rest a

/-- Record classes are made by the hooks that are not idle. -/
theorem record_filter (idle : ∀ i ∈ is, keep i = false → (hooks i).Idle) (table : Table) :
    record ((is.filter keep).map hooks) table = record (is.map hooks) table := by
  have field : ∀ d c f, keepField d c table ((is.filter keep).map hooks) f =
      keepField d c table (is.map hooks) f := fun d c f =>
    keepAll_filter (fun i member left f => (idle i member left).1 f d c table .baseRecord) f
  have declaration : ∀ d, keepDeclaration table ((is.filter keep).map hooks) d =
      keepDeclaration table (is.map hooks) d := fun d =>
    keepAll_filter (fun i member left d => (idle i member left).2 d table) d
  have added : addColumn ((is.filter keep).map hooks) table = addColumn (is.map hooks) table := by
    funext d c
    rw [addColumn, addColumn, field]
  rw [record, record, properties, properties, added, declaration]

theorem records_filter (idle : ∀ i ∈ is, keep i = false → (hooks i).Idle) (recordProject : String)
    (tables : List Table) :
    records ((is.filter keep).map hooks) recordProject tables =
      records (is.map hooks) recordProject tables := by
  simp only [records, record_filter idle]

/-- Additions are made by the hooks that add something. -/
theorem allExtras_filter (silent : ∀ i ∈ is, keep i = false → ∀ table, (hooks i).extras table = [])
    (tables : List Table) :
    allExtras ((is.filter keep).map hooks) tables = allExtras (is.map hooks) tables := by
  have each : ∀ table, ((is.filter keep).map hooks).flatMap (·.extras table) =
      (is.map hooks).flatMap (·.extras table) := by
    intro table
    rw [List.flatMap_map, List.flatMap_map]
    induction is with
    | nil => rfl
    | cons i is ih =>
      have rest := ih fun j member => silent j (List.mem_cons_of_mem i member)
      cases kept : keep i with
      | true => rw [List.filter_cons_of_pos kept, List.flatMap_cons, List.flatMap_cons, rest]
      | false =>
        rw [List.filter_cons_of_neg (by simp [kept]), List.flatMap_cons, rest,
          silent i List.mem_cons_self kept, List.nil_append]
  simp only [allExtras, each]

end

/-! ## Halves of an output -/

/-- The hooks of those that take part. -/
def ofActive (bs : List BuiltIn) : List Hooks := (bs.map (·.hooks)).filter (·.active)

theorem ofActive_eq (bs : List BuiltIn) :
    ofActive bs = (bs.filter (·.hooks.active)).map (·.hooks) := by
  rw [ofActive, List.filter_map]
  rfl

/-- Those that are kept take part, so nothing is lost by asking that first. -/
theorem filter_active_filter {keep : BuiltIn → Bool}
    (active : ∀ b, keep b = true → b.hooks.active = true) (bs : List BuiltIn) :
    (bs.filter (·.hooks.active)).filter keep = bs.filter keep ∧
      ofActive (bs.filter keep) = (bs.filter keep).map (·.hooks) := by
  have both : ∀ b : BuiltIn, (keep b && b.hooks.active) = keep b := by
    intro b
    cases kept : keep b with
    | true => rw [active b kept, Bool.and_self]
    | false => rw [Bool.false_and]
  constructor
  · simp only [List.filter_filter, both]
  · rw [ofActive_eq, List.filter_filter]
    simp only [Bool.and_comm, both]

/-- Record classes are made by the domain plugins. -/
theorem records_domain (bs : List BuiltIn) (recordProject : String) (tables : List Table) :
    records (ofActive (bs.filter (·.isDomain))) recordProject tables =
      records (ofActive bs) recordProject tables := by
  obtain ⟨kept, all⟩ := filter_active_filter (fun _ => BuiltIn.active_of_isDomain) bs
  rw [all, ← kept, ofActive_eq]
  exact records_filter (fun b _ other => BuiltIn.idle_of_not_isDomain other) recordProject tables

/-- Additions are made by the service plugins that are not disabled. -/
theorem allExtras_service (bs : List BuiltIn) (tables : List Table) :
    allExtras (ofActive (bs.filter (·.isEnabledService))) tables =
      allExtras (ofActive bs) tables := by
  obtain ⟨kept, all⟩ := filter_active_filter (fun _ => BuiltIn.active_of_isEnabledService) bs
  rw [all, ← kept, ofActive_eq]
  refine allExtras_filter (fun b member other => ?_) tables
  exact BuiltIn.extras_eq_nil (List.mem_filter.1 member).2 other

/-- Nothing is a plugin of both kinds. -/
theorem filter_kinds (bs : List BuiltIn) :
    (bs.filter (·.isDomain)).filter (·.isEnabledService) = [] ∧
      (bs.filter (·.isEnabledService)).filter (·.isDomain) = [] := by
  simp only [List.filter_filter, List.filter_eq_nil_iff]
  constructor <;> intro b _ <;> cases b <;> simp [BuiltIn.isEnabledService, BuiltIn.isDomain]

theorem allExtras_domain (bs : List BuiltIn) (tables : List Table) :
    allExtras (ofActive (bs.filter (·.isDomain))) tables = [] := by
  rw [← allExtras_service, (filter_kinds bs).1, allExtras, List.flatMap_eq_nil_iff]
  intro table _
  rfl

theorem records_service (bs : List BuiltIn) (recordProject : String) (tables : List Table) :
    records (ofActive (bs.filter (·.isEnabledService))) recordProject tables =
      records (ofActive []) recordProject tables := by
  rw [← records_domain, (filter_kinds bs).2]

end Hooks

/-! ## Passes -/

namespace Pass

variable {m : Type → Type} [Monad m] [MonadJournal m]

/-- The pass that registers plugins in order. -/
def ofBuiltIns (recordProject : String) (bs : List BuiltIn) : Pass m where
  plugins := bs.map (·.plugin)
  recordProject := recordProject

variable [LawfulMonad m]

theorem gives_ofBuiltIns (recordProject : String) (bs : List BuiltIn) (tables : List Table) :
    Gives (parts (ofBuiltIns recordProject bs : Pass m) tables)
      (Hooks.records (Hooks.ofActive bs) recordProject tables,
        Hooks.allExtras (Hooks.ofActive bs) tables, []) := by
  have given := gives_parts (BuiltIn.plugins_follow (m := m) bs) recordProject tables
  rwa [Hooks.takePart_of_quiet (List.forall_mem_map.2 fun b _ => b.hooks_quiet)] at given

theorem gives_run_ofBuiltIns (recordProject : String) (bs : List BuiltIn) (tables : List Table) :
    Gives (run (ofBuiltIns recordProject bs : Pass m) tables)
      { artifacts := Hooks.records (Hooks.ofActive bs) recordProject tables ++
          Hooks.allExtras (Hooks.ofActive bs) tables
        warnings := [] } := by
  rw [run_eq_parts]
  exact .bind (gives_ofBuiltIns recordProject bs tables) (.bind (.note _ _) (.pure _))

/-- Plugins of different kinds do not get into each other's way. In a pass of domain plugins,
service plugins and inert ones, in any number and order, the record classes are those of the pass of
its domain plugins alone, which adds nothing, and what is added to them is what the pass of its
enabled service plugins alone adds to plain record classes, each for the same project. So the whole
output depends on these two lists only, and a domain plugin and a service plugin next to it may
change places. -/
theorem run_kindsApart (recordProject : String) (builtIns : List BuiltIn) (tables : List Table) :
    ∃ records extras : List Artifact,
      Gives (parts (ofBuiltIns recordProject builtIns : Pass m) tables) (records, extras, []) ∧
      Gives (run (ofBuiltIns recordProject builtIns : Pass m) tables)
        { artifacts := records ++ extras, warnings := [] } ∧
      Gives (parts (ofBuiltIns recordProject (builtIns.filter (·.isDomain)) : Pass m) tables)
        (records, [], []) ∧
      (∃ plain, Gives (parts (ofBuiltIns recordProject [] : Pass m) tables) (plain, [], []) ∧
        Gives (parts (ofBuiltIns recordProject (builtIns.filter (·.isEnabledService)) : Pass m)
          tables) (plain, extras, [])) ∧
      (∀ others : List BuiltIn, others.filter (·.isDomain) = builtIns.filter (·.isDomain) →
        others.filter (·.isEnabledService) = builtIns.filter (·.isEnabledService) →
        Gives (run (ofBuiltIns recordProject others : Pass m) tables)
          { artifacts := records ++ extras, warnings := [] }) ∧
      ∀ front back d s, builtIns = front ++ .domain d :: .service s :: back →
        Gives (run (ofBuiltIns recordProject (front ++ .service s :: .domain d :: back) : Pass m)
          tables) { artifacts := records ++ extras, warnings := [] } := by
  have same : ∀ others : List BuiltIn, others.filter (·.isDomain) = builtIns.filter (·.isDomain) →
      others.filter (·.isEnabledService) = builtIns.filter (·.isEnabledService) →
      Gives (run (ofBuiltIns recordProject others : Pass m) tables)
        { artifacts := Hooks.records (Hooks.ofActive builtIns) recordProject tables ++
            Hooks.allExtras (Hooks.ofActive builtIns) tables
          warnings := [] } := by
    intro others domains services
    have given := gives_run_ofBuiltIns (m := m) recordProject others tables
    rwa [← Hooks.records_domain, ← Hooks.allExtras_service, domains, services,
      Hooks.records_domain, Hooks.allExtras_service] at given
  refine ⟨_, _, gives_ofBuiltIns recordProject builtIns tables, same builtIns rfl rfl, ?_, ?_, same,
    ?_⟩
  · have given := gives_ofBuiltIns (m := m) recordProject (builtIns.filter (·.isDomain)) tables
    rwa [Hooks.records_domain, Hooks.allExtras_domain] at given
  · have plain := gives_ofBuiltIns (m := m) recordProject ([].filter (·.isDomain)) tables
    rw [Hooks.allExtras_domain] at plain
    have given :=
      gives_ofBuiltIns (m := m) recordProject (builtIns.filter (·.isEnabledService)) tables
    rw [Hooks.allExtras_service, Hooks.records_service] at given
    exact ⟨_, plain, given⟩
  · rintro front back d s rfl
    have noDomain : (BuiltIn.service s).isDomain = false := rfl
    have noService : (BuiltIn.domain d).isEnabledService = false := rfl
    refine same _ ?_ ?_
    · simp [List.filter_cons, noDomain]
    · simp [List.filter_cons, noService]

/-- Between a disabled service plugin and a second domain plugin, two neighbours change places. -/
theorem run_kindsApart_neighbours :
    let named := fun (segment simple : Identifier) =>
      TypeExpr.ofName { scope := [segment], simple }
    let table : Table :=
      { name := "PERSON", recordType := named ⟨"model", by decide⟩ ⟨"Person", by decide⟩ }
    let services : ServiceSettings :=
      { targetProject := some "out"
        targetPackage := some { segments := [⟨"app", by decide⟩] }
        basicService := some (named ⟨"base", by decide⟩ ⟨"Basic", by decide⟩) }
    let front : List BuiltIn := [.inert "idle", .service { services with disable := true }]
    let back : List BuiltIn := [.domain { dateSerialize := true }]
    let first : Pass Id :=
      ofBuiltIns "in" (front ++ .domain { serializable := true } :: .service services :: back)
    let second : Pass Id :=
      ofBuiltIns "in" (front ++ .service services :: .domain { serializable := true } :: back)
    run first [table] = run second [table] ∧
      (run first [table]).artifacts.map (fun a => (a.declaration.name.text, a.targetProject)) =
        [("model.Person", "in"), ("app.PersonService", "out")] := by
  intro named table services front back first second
  obtain ⟨records, extras, -, ⟨journal, whole⟩, -, -, -, swap⟩ := run_kindsApart (m := Id) "in"
    (front ++ .domain { serializable := true } :: .service services :: back) [table]
  obtain ⟨journal', swapped⟩ := swap front back _ _ rfl
  exact ⟨whole.trans swapped.symm, by decide⟩

end Pass

end RecordSynth
