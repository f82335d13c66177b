import RecordSynth.Command
import RecordSynth.Proofs.ComesTo
import RecordSynth.Proofs.Pass.Records
import RecordSynth.Proofs.Pass.Steps
/-!
# Runs on a disk

A disk may answer every write as it likes, and what it answers may depend on all that it has taken
before. Files are written one after another, up to the first one that the disk refuses
(`Disk.takes_or_refuses`). A command first loads what it needs, and either something is refused there
or all is at hand (`Inputs.refused_or_loads`).
-/

namespace RecordSynth

/-! ## Journals -/

section

variable {σ α : Type} {u v w : σ}

theorem leads_noteAll (messages : Journal) (u : σ) :
    Worldly.Leads (noteAll messages : InWorld σ Unit) u () u := by
  induction messages with
  | nil => exact Worldly.leads_pure () u
  | cons message messages ih =>
    have noted : Worldly.Leads (note message.level message.text : InWorld σ Unit) u () u :=
      fun journal => ⟨journal ++ [message], rfl⟩
    exact Worldly.leads_bind noted ih

/-- What only reports goes on in the same world. -/
theorem ComesTo.reported {x : InWorld σ α} {a : α} (given : Gives x a) (u : σ) :
    ComesTo (liftM x : ExceptT Error (InWorld σ) α) u (.ok a) u := by
  obtain ⟨messages, rfl⟩ := given
  exact .of_leads (Worldly.leads_bind (leads_noteAll messages u) (Worldly.leads_pure a u))

/-- A run from some journal comes to what the computation comes to from any. -/
theorem ComesTo.eq_of_run {x : ExceptT Error (InWorld σ) α} {first second : Except Error α}
    {journal journal' : Journal} (comes : ComesTo x u first v)
    (ran : (x.run.run journal).run u = ((second, journal'), w)) : first = second ∧ v = w := by
  obtain ⟨_, led⟩ := comes journal
  cases led.symm.trans ran
  exact ⟨rfl, rfl⟩

end

/-! ## Disks -/

/-- What is reported of a document that cannot be read. -/
def unreadable (path : String) (fault : ReadFault) : Error :=
  .operation ("Failed to read " ++ Text.quoted path ++ ": " ++ fault.message)

/-- A disk: what it has at each path, and what it answers to each write. -/
structure Disk (σ : Type) where
  read : σ → String → Except ReadFault String
  write : σ → String → String → Except Error Unit × σ

/-- A disk in use. -/
structure InUse (σ : Type) where
  state : σ
  /-- The files that it was given to write, taken or not, with their contents and in order. -/
  writes : List (String × String) := []

namespace Disk

variable {σ : Type}

/-- The host that reads and writes a disk and prints nowhere. -/
def host (d : Disk σ) : Host (InWorld (InUse σ)) where
  read path := return d.read (← getThe (InUse σ)).state path
  write path text := do
    let u ← getThe (InUse σ)
    let (answer, state) := d.write u.state path text
    set { state, writes := u.writes ++ [(path, text)] : InUse σ }
    return answer
  print _ := pure ()

/-- The disk takes files one after another. -/
inductive Takes (d : Disk σ) : σ → List (String × String) → σ → Prop
  | nil (s : σ) : Takes d s [] s
  | cons {s s' s'' : σ} {path text : String} {files : List (String × String)}
    (head : d.write s path text = (.ok (), s')) (rest : Takes d s' files s'') :
    Takes d s ((path, text) :: files) s''

/-- The disk takes some files and then refuses the next one. -/
structure Refuses (d : Disk σ) (s : σ) (files before : List (String × String))
    (path text : String) (e : Error) (left : σ) : Prop where
  among : ∃ after, files = before ++ (path, text) :: after
  refused : ∃ s', d.Takes s before s' ∧ d.write s' path text = (.error e, left)

/-- Files are all taken, or there is a first one that is not. -/
theorem takes_or_refuses (d : Disk σ) (s : σ) (files : List (String × String)) :
    (∃ s', d.Takes s files s') ∨
      ∃ before path text e left, d.Refuses s files before path text e left := by
  induction files generalizing s with
  | nil => exact .inl ⟨s, .nil s⟩
  | cons file files ih =>
    obtain ⟨path, text⟩ := file
    rcases answered : d.write s path text with ⟨answer, s'⟩
    cases answer with
    | error e =>
      exact .inr ⟨[], path, text, e, s', ⟨files, rfl⟩, s, .nil s, answered⟩
    | ok =>
      rcases ih s' with ⟨s'', rest⟩ | ⟨before, path', text', e, left, ⟨after, rfl⟩, t, taken, last⟩
      · exact .inl ⟨s'', .cons answered rest⟩
      · exact .inr ⟨(path, text) :: before, path', text', e, left, ⟨after, rfl⟩, t,
          .cons answered taken, last⟩

/-- A disk that takes every file takes all of them. -/
theorem takes_of_willing (d : Disk σ)
    (willing : ∀ s path text, (d.write s path text).1 = .ok ()) (s : σ)
    (files : List (String × String)) : ∃ s', d.Takes s files s' := by
  rcases d.takes_or_refuses s files with taken | ⟨_, path, text, _, _, -, s', -, refused⟩
  · exact taken
  · have answered := willing s' path text
    rw [refused] at answered
    cases answered

variable {d : Disk σ} {u : InUse σ}

/-- What the disk has at a path is read, and reading leaves it as it is. -/
theorem comesTo_read (path : String) :
    ComesTo (liftM (d.host.read path) : ExceptT Error (InWorld (InUse σ)) _) u
      (.ok (d.read u.state path)) u := by
  have asked : Worldly.Leads (d.host.read path) u (d.read u.state path) u :=
    fun journal => ⟨journal, rfl⟩
  exact .of_leads asked

theorem comesTo_read_of_ok {path source : String} (found : d.read u.state path = .ok source) :
    ComesTo (d.host.readDocument path) u (.ok source) u := by
  refine .bind (comesTo_read path) ?_
  rw [found]
  exact .done source u

theorem comesTo_read_of_error {path : String} {fault : ReadFault}
    (missing : d.read u.state path = .error fault) :
    ComesTo (d.host.readDocument path) u (.error (unreadable path fault)) u := by
  refine .bind (comesTo_read path) ?_
  rw [missing]
  exact .given (.error (unreadable path fault)) u

theorem comesTo_print (line : String) :
    ComesTo (liftM (d.host.print line) : ExceptT Error (InWorld (InUse σ)) Unit) u (.ok ()) u :=
  .reported (.pure ()) u

theorem comesTo_printAll (lines : List String) :
    ComesTo (liftM (d.host.printAll lines) : ExceptT Error (InWorld (InUse σ)) Unit) u (.ok ())
      u := by
  have silent : d.host.printAll lines = d.host.print "" := by
    induction lines with
    | nil => rfl
    | cons line lines ih =>
      rw [Host.printAll, ih]
      rfl
  rw [silent]
  exact comesTo_print ""

variable {s t : σ} {writes : List (String × String)}

/-- A write is noted, and its answer is that of the disk. -/
theorem comesTo_write {path text : String} {answer : Except Error Unit}
    (answered : d.write s path text = (answer, t)) :
    ComesTo (ExceptT.mk (d.host.write path text)) { state := s, writes } answer
      { state := t, writes := writes ++ [(path, text)] } := by
  intro journal
  have ran : ((d.host.write path text).run journal).run { state := s, writes } =
      (((d.write s path text).1, journal),
        { state := (d.write s path text).2, writes := writes ++ [(path, text)] }) := rfl
  rw [answered] at ran
  exact ⟨journal, ran⟩

/-- Files that are taken are noted, and the rest is written behind them. -/
theorem comesTo_writeAll_append {before files : List (String × String)}
    {result : Except Error Unit} {last : InUse σ} (taken : d.Takes s before t)
    (rest : ComesTo (d.host.writeAll files) { state := t, writes := writes ++ before } result last) :
    ComesTo (d.host.writeAll (before ++ files)) { state := s, writes } result last := by
  induction taken generalizing writes with
  | nil s => rwa [List.append_nil] at rest
  | cons head _ ih =>
    refine .bind (comesTo_write head) (ih ?_)
    rwa [List.append_assoc]

theorem comesTo_writeAll {files : List (String × String)} (taken : d.Takes s files t) :
    ComesTo (d.host.writeAll files) { state := s, writes } (.ok ())
      { state := t, writes := writes ++ files } := by
  have none : ComesTo (d.host.writeAll []) { state := t, writes := writes ++ files } (.ok ()) _ :=
    .done () _
  have whole := comesTo_writeAll_append taken none
  rwa [List.append_nil] at whole

theorem comesTo_writeAll_of_refuses {files before : List (String × String)} {path text : String}
    {e : Error} (refuses : d.Refuses s files before path text e t) :
    ComesTo (d.host.writeAll files) { state := s, writes } (.error e)
      { state := t, writes := writes ++ before ++ [(path, text)] } := by
  obtain ⟨⟨after, rfl⟩, s', taken, refused⟩ := refuses
  refine comesTo_writeAll_append taken ?_
  exact .bind_error (comesTo_write refused) _

/-- Files that have been written were all taken. -/
theorem exists_takes_of_run {files : List (String × String)}
    (done : (((d.host.writeAll files).run.run []).run { state := s }).1.1 = .ok ()) :
    ∃ s', d.Takes s files s' := by
  rcases d.takes_or_refuses s files with taken | ⟨_, _, _, _, _, refuses⟩
  · exact taken
  · obtain ⟨same, -⟩ :=
      (comesTo_writeAll_of_refuses refuses).eq_of_run (Prod.ext (Prod.ext done rfl) rfl)
    cases same

end Disk

/-! ## Settings and their passes -/

namespace RunSettings

/-- The record class of a table as an artifact of a run. -/
def recordOf (settings : RunSettings) (table : Table) : Artifact where
  declaration := Record.clean (.ofProperties settings.domain) table
  targetProject := settings.recordProject

/-- The artifacts of a run: record classes, then what the service plugin adds. -/
def artifacts (settings : RunSettings) (service : ServiceSettings) (tables : List Table) :
    List Artifact :=
  tables.map settings.recordOf ++ tables.flatMap (Hooks.serviceArtifacts service)

/-- The pass of settings makes the artifacts, without warnings. -/
theorem gives_artifacts {m : Type → Type} [Monad m] [LawfulMonad m] [MonadJournal m]
    {settings : RunSettings} {pass : Pass m} (made : settings.pass = .ok pass) :
    ∃ service, ServiceSettings.ofProperties settings.service = .ok service ∧
      ∀ tables, Gives (pass.run tables)
        { artifacts := settings.artifacts service tables, warnings := [] } := by
  cases read : ServiceSettings.ofProperties settings.service with
  | error e =>
    rw [RunSettings.pass, read] at made
    cases made
  | ok service =>
    rw [RunSettings.pass, read] at made
    obtain rfl := Except.ok.inj made
    exact ⟨service, rfl, Pass.gives_builtIn (.inl rfl) settings.recordProject⟩

theorem run_eq {settings : RunSettings} {pass : Pass Id} {service : ServiceSettings}
    (made : settings.pass = .ok pass)
    (read : ServiceSettings.ofProperties settings.service = .ok service) (tables : List Table) :
    (pass.run tables : PassOutput) =
      { artifacts := settings.artifacts service tables, warnings := [] } := by
  obtain ⟨service', read', gives⟩ := gives_artifacts made
  obtain rfl : service' = service := Except.ok.inj (read'.symm.trans read)
  obtain ⟨_, given⟩ := gives tables
  exact given

/-- A pass does the same in any monad. -/
theorem gives_run {m : Type → Type} [Monad m] [LawfulMonad m] [MonadJournal m]
    {settings : RunSettings} {pass : Pass m} {silent : Pass Id} (made : settings.pass = .ok pass)
    (made' : settings.pass = .ok silent) (tables : List Table) :
    Gives (pass.run tables) (silent.run tables : PassOutput) := by
  obtain ⟨service, read, gives⟩ := gives_artifacts made
  rw [run_eq made' read]
  exact gives tables

/-- Settings make no pass just if those of the service are refused. -/
theorem pass_eq_error_iff {m : Type → Type} [Monad m] [MonadJournal m]
    {settings : RunSettings} {e : Error} : (settings.pass : Except Error (Pass m)) = .error e ↔
      ServiceSettings.ofProperties settings.service = .error e := by
  rw [RunSettings.pass]
  cases ServiceSettings.ofProperties settings.service with
  | error other =>
    change Except.error other = Except.error e ↔ _
    rw [Except.error.injEq, Except.error.injEq]
  | ok service =>
    constructor
    · intro made
      cases made
    · intro refused
      cases refused

end RunSettings

/-! ## Loading -/

namespace Inputs

section

variable (read : String → Except ReadFault String) (i : Inputs)

/-- The text at the path of the schema spells this schema. -/
def HasSchema (schema : Schema) : Prop :=
  ∃ source, read i.schema = .ok source ∧ Schema.parse (.ofPath i.schema) source = .ok schema

/-- The settings document, if there is one, spells these settings, with those of the inputs assigned. -/
inductive HasSettings : RunSettings → Prop
  | assigned (bare : i.config = none) :
    HasSettings (.assign {} i.serviceProperties i.domainProperties)
  | document {path source : String} {settings : RunSettings} (given : i.config = some path)
    (found : read path = .ok source)
    (parsed : RunSettings.parse (.ofPath path) source = .ok settings) :
    HasSettings (settings.assign i.serviceProperties i.domainProperties)

/-- The first of the schema, the settings document and the settings of the service that cannot be
used, by the error about it. -/
inductive Refused : Error → Prop
  | unreadableSchema {fault : ReadFault} (missing : read i.schema = .error fault) :
    Refused (unreadable i.schema fault)
  | malformedSchema {source : String} {e : Error} (found : read i.schema = .ok source)
    (malformed : Schema.parse (.ofPath i.schema) source = .error e) : Refused e
  | unreadableSettings {schema : Schema} {path : String} {fault : ReadFault}
    (hasSchema : i.HasSchema read schema) (given : i.config = some path)
    (missing : read path = .error fault) : Refused (unreadable path fault)
  | malformedSettings {schema : Schema} {path source : String} {e : Error}
    (hasSchema : i.HasSchema read schema) (given : i.config = some path)
    (found : read path = .ok source)
    (malformed : RunSettings.parse (.ofPath path) source = .error e) : Refused e
  | malformedService {schema : Schema} {settings : RunSettings} {e : Error}
    (hasSchema : i.HasSchema read schema) (hasSettings : i.HasSettings read settings)
    (malformed : ServiceSettings.ofProperties settings.service = .error e) : Refused e

/-- All that a run needs is there: a schema, settings, and the pass that they make. -/
structure Loads (schema : Schema) (settings : RunSettings) (pass : Pass Id) : Prop where
  ofSchema : i.HasSchema read schema
  ofSettings : i.HasSettings read settings
  ofPass : settings.pass = .ok pass

end

variable {read : String → Except ReadFault String} {i : Inputs}

/-- Whatever can be read, either something is refused or all is there. -/
theorem refused_or_loads (read : String → Except ReadFault String) (i : Inputs) :
    (∃ e, i.Refused read e) ∨ ∃ schema settings pass, i.Loads read schema settings pass := by
  cases found : read i.schema with
  | error fault => exact .inl ⟨_, .unreadableSchema found⟩
  | ok source =>
    cases parsed : Schema.parse (.ofPath i.schema) source with
    | error e => exact .inl ⟨e, .malformedSchema found parsed⟩
    | ok schema =>
      have hasSchema : i.HasSchema read schema := ⟨source, found, parsed⟩
      have settled : ∀ settings, i.HasSettings read settings →
          (∃ e, i.Refused read e) ∨ ∃ schema settings pass, i.Loads read schema settings pass := by
        intro settings hasSettings
        cases made : (settings.pass : Except Error (Pass Id)) with
        | error e =>
          have malformed := RunSettings.pass_eq_error_iff.1 made
          exact .inl ⟨e, .malformedService hasSchema hasSettings malformed⟩
        | ok pass => exact .inr ⟨schema, settings, pass, hasSchema, hasSettings, made⟩
      cases given : i.config with
      | none => exact settled _ (.assigned given)
      | some path =>
        cases found' : read path with
        | error fault => exact .inl ⟨_, .unreadableSettings hasSchema given found'⟩
        | ok source' =>
          cases parsed' : RunSettings.parse (.ofPath path) source' with
          | error e => exact .inl ⟨e, .malformedSettings hasSchema given found' parsed'⟩
          | ok settings => exact settled _ (.document given found' parsed')

variable {σ α : Type} {d : Disk σ} {u last : InUse σ} {result : Except Error α}

theorem comesTo_loadSchema {schema : Schema} (hasSchema : i.HasSchema (d.read u.state) schema) :
    ComesTo (i.loadSchema d.host) u (.ok schema) u := by
  obtain ⟨source, found, parsed⟩ := hasSchema
  refine .bind (Disk.comesTo_read_of_ok found) ?_
  rw [parsed]
  exact .given (.ok schema) u

theorem comesTo_loadSettings {settings : RunSettings}
    (hasSettings : i.HasSettings (d.read u.state) settings) :
    ComesTo (i.loadSettings d.host) u (.ok settings) u := by
  unfold loadSettings
  cases hasSettings with
  | assigned bare =>
    rw [bare]
    exact .bind (.done _ u) (.done _ u)
  | document given found parsed =>
    rw [given]
    refine .bind (Disk.comesTo_read_of_ok found) ?_
    rw [parsed]
    exact .bind (.given (.ok _) u) (.done _ u)

/-- Where something is refused, a command ends before it goes on. -/
theorem comesTo_of_refused {e : Error} (refused : i.Refused (d.read u.state) e)
    (next : Schema → Pass (InWorld (InUse σ)) → ExceptT Error (InWorld (InUse σ)) α) :
    ComesTo (do
      let schema ← i.loadSchema d.host
      let pass ← i.loadPass d.host
      next schema pass) u (.error e) u := by
  -- A schema that is there is passed by, so that only the settings and the pass are left.
  have behind : ∀ {schema}, i.HasSchema (d.read u.state) schema →
      ComesTo (i.loadPass d.host) u (.error e) u →
      ComesTo (do
        let schema ← i.loadSchema d.host
        let pass ← i.loadPass d.host
        next schema pass) u (.error e) u :=
    fun hasSchema stopped => .bind (comesTo_loadSchema hasSchema) (stopped.bind_error _)
  cases refused with
  | unreadableSchema missing =>
    exact .bind_error (.bind_error (Disk.comesTo_read_of_error missing) _) _
  | malformedSchema found malformed =>
    refine .bind_error (.bind (Disk.comesTo_read_of_ok found) ?_) _
    rw [malformed]
    exact .given (.error e) u
  | unreadableSettings hasSchema given missing =>
    refine behind hasSchema (.bind_error ?_ _)
    rw [loadSettings, given]
    exact .bind_error (Disk.comesTo_read_of_error missing) _
  | malformedSettings hasSchema given found malformed =>
    refine behind hasSchema (.bind_error ?_ _)
    rw [loadSettings, given]
    refine .bind (Disk.comesTo_read_of_ok found) ?_
    rw [malformed]
    exact .bind_error (.given (.error e) u) _
  | malformedService hasSchema hasSettings malformed =>
    refine behind hasSchema (.bind (comesTo_loadSettings hasSettings) ?_)
    rw [RunSettings.pass_eq_error_iff.2 malformed]
    exact .given (.error e) u

/-- Where all is there, a command goes on with the pass of its settings. -/
theorem comesTo_of_loads {schema : Schema} {settings : RunSettings} {pass : Pass Id}
    (loads : i.Loads (d.read u.state) schema settings pass)
    {next : Schema → Pass (InWorld (InUse σ)) → ExceptT Error (InWorld (InUse σ)) α}
    (rest : ∀ running : Pass (InWorld (InUse σ)),
      Gives (running.run schema.tables) (pass.run schema.tables : PassOutput) →
        ComesTo (next schema running) u result last) :
    ComesTo (do
      let schema ← i.loadSchema d.host
      let pass ← i.loadPass d.host
      next schema pass) u result last := by
  cases made : (settings.pass : Except Error (Pass (InWorld (InUse σ)))) with
  | error e =>
    have malformed := RunSettings.pass_eq_error_iff.1 made
    cases loads.ofPass.symm.trans (RunSettings.pass_eq_error_iff.2 malformed)
  | ok running =>
    have loaded : ComesTo (i.loadPass d.host) u (.ok running) u := by
      refine .bind (comesTo_loadSettings loads.ofSettings) ?_
      rw [made]
      exact .given (.ok running) u
    refine .bind (comesTo_loadSchema loads.ofSchema) (.bind loaded ?_)
    exact rest running (RunSettings.gives_run made loads.ofPass schema.tables)

end Inputs

end RecordSynth
