import Mathlib
import RecordSynth.Pass
/-!
# Hooks that are functions

The hooks of a plugin may have effects in the monad of the run. For plugins that only report
besides computing, each hook is a function of what it is given, and what a pass makes of such
plugins can be said without a monad: which fields and record classes are kept, and which artifacts
come out in which order. `Pass.gives_output` says that a run in any monad gives just that.
-/

namespace RecordSynth

/-! ## Computations that only report -/

section

variable {m : Type → Type} [Monad m] [MonadJournal m] {α β : Type}

/-- Notes messages in order. -/
def noteAll : Journal → m Unit
  | [] => pure ()
  | message :: rest => do
    note message.level message.text
    noteAll rest

/-- The computation notes some messages and then gives `a`. -/
def Gives (x : m α) (a : α) : Prop := ∃ journal : Journal, x = noteAll journal >>= fun _ => pure a

variable [LawfulMonad m]

theorem noteAll_append (j k : Journal) :
    (noteAll (j ++ k) : m Unit) = noteAll j >>= fun _ => noteAll k := by
  induction j with
  | nil => simp [noteAll]
  | cons message rest ih => simp [noteAll, ih]

theorem Gives.pure (a : α) : Gives (pure a : m α) a := ⟨[], by simp [noteAll]⟩

theorem Gives.note (level : Level) (text : String) : Gives (note level text : m Unit) () :=
  ⟨[⟨level, text⟩], by simp [noteAll]⟩

theorem Gives.bind {x : m α} {a : α} {f : α → m β} {b : β} (first : Gives x a)
    (second : Gives (f a) b) : Gives (x >>= f) b := by
  obtain ⟨j, rfl⟩ := first
  obtain ⟨k, given⟩ := second
  refine ⟨j ++ k, ?_⟩
  rw [noteAll_append]
  simp [given]

end

/-! ## What a pass makes of such hooks -/

/-- The hooks of a plugin as functions. -/
structure Hooks where
  name : String
  /-- Whether the plugin takes part, and what it makes of the warnings so far. -/
  validate : List String → Bool × List String := fun warnings => (true, warnings)
  /-- What the plugin makes of a field, and whether it keeps it. -/
  field : Field → Declaration → Column → Table → RecordKind → Field × Bool :=
    fun f _ _ _ _ => (f, true)
  /-- What the plugin makes of a record class, and whether it keeps it. -/
  declaration : Declaration → Table → Declaration × Bool := fun d _ => (d, true)
  /-- What the plugin adds for a table. -/
  extras : Table → List Artifact := fun _ => []

namespace Hooks

/-- The hooks of the plugins that take part, and the warnings that the last plugin leaves. -/
def takePart : List Hooks → List String → List Hooks × List String
  | [], warnings => ([], warnings)
  | h :: hs, warnings =>
    let (active, warnings) := h.validate warnings
    let (others, warnings) := takePart hs warnings
    (if active then h :: others else others, warnings)

/-- What all hooks make of a value, unless one of them refuses it. -/
def keepAll {α : Type} (ask : Hooks → α → α × Bool) : List Hooks → α → Option α
  | [], a => some a
  | h :: hs, a =>
    match ask h a with
    | (b, true) => keepAll ask hs b
    | (_, false) => none

/-- What all hooks make of a field. -/
def keepField (d : Declaration) (c : Column) (table : Table) : List Hooks → Field → Option Field :=
  keepAll fun h f => h.field f d c table .baseRecord

/-- What all hooks make of a record class. -/
def keepDeclaration (table : Table) : List Hooks → Declaration → Option Declaration :=
  keepAll fun h d => h.declaration d table

/-- The record class with the property of a column, unless some hook refuses its field. -/
def addColumn (hooks : List Hooks) (table : Table) (d : Declaration) (c : Column) : Declaration :=
  match keepField d c table hooks (Record.field c) with
  | some f => Record.addProperty d c f
  | none => d

/-- The record class of a table as it is before the hooks see it whole. -/
def properties (hooks : List Hooks) (table : Table) : Declaration :=
  table.columns.foldl (addColumn hooks table) (Record.empty table)

/-- The record class of a table, unless some hook refuses it. -/
def record (hooks : List Hooks) (table : Table) : Option Declaration :=
  keepDeclaration table hooks (properties hooks table)

/-- The record classes of tables, in order. -/
def records (hooks : List Hooks) (recordProject : String) (tables : List Table) : List Artifact :=
  tables.filterMap fun table => (record hooks table).map fun declaration =>
    { declaration, targetProject := recordProject }

/-- What the plugins add for tables: by table, then by plugin. -/
def allExtras (hooks : List Hooks) (tables : List Table) : List Artifact :=
  tables.flatMap fun table => hooks.flatMap (·.extras table)

/-- What a pass makes: record classes first, then what the plugins add. Only those that take part
are asked, but all may warn. -/
def output (hooks : List Hooks) (recordProject : String) (tables : List Table) : PassOutput :=
  let (active, warnings) := takePart hooks []
  { artifacts := records active recordProject tables ++ allExtras active tables, warnings }

/-- Whether the plugin takes part where there are no warnings. -/
def active (h : Hooks) : Bool := (h.validate []).1

/-- The plugin neither looks at warnings nor warns. -/
def Quiet (h : Hooks) : Prop := ∀ warnings, h.validate warnings = (h.active, warnings)

/-- Among plugins that do not warn, each decides for itself whether it takes part. -/
theorem takePart_of_quiet {hooks : List Hooks} (quiet : ∀ h ∈ hooks, h.Quiet)
    (warnings : List String) : takePart hooks warnings = (hooks.filter (·.active), warnings) := by
  induction hooks with
  | nil => rfl
  | cons h hs ih =>
    obtain ⟨own, others⟩ := List.forall_mem_cons.1 quiet
    rw [takePart, own]
    dsimp only
    rw [ih others, List.filter_cons]

end Hooks

/-! ## Plugins with such hooks -/

variable {m : Type → Type} [Monad m] [MonadJournal m]

/-- Each hook of the plugin only reports besides computing what the function in `h` does. -/
structure Plugin.Follows (p : Plugin m) (h : Hooks) : Prop where
  name : p.name = h.name
  validate : ∀ warnings, Gives (p.validate warnings) (h.validate warnings)
  fieldCreated : ∀ f d c table kind,
    Gives (p.fieldCreated f d c table kind) (h.field f d c table kind)
  declarationCreated : ∀ d table, Gives (p.declarationCreated d table) (h.declaration d table)
  additionalArtifacts : ∀ table, Gives (p.additionalArtifacts table) (h.extras table)

namespace Pass

/-! ### Asking plugins -/

/-- Asks each plugin about a value, up to the first that refuses it. -/
def askAll {m : Type → Type} [Monad m] {α : Type} (hook : Plugin m → α → m (α × Bool)) :
    List (Plugin m) → α → m (α × Bool)
  | [], a => pure (a, true)
  | p :: ps, a => do
    match ← hook p a with
    | (b, true) => askAll hook ps b
    | (b, false) => return (b, false)

theorem askField_eq {m : Type → Type} [Monad m] (d : Declaration) (c : Column) (table : Table)
    (plugins : List (Plugin m)) :
    askField d c table plugins =
      askAll (fun p f => p.fieldCreated f d c table .baseRecord) plugins := by
  induction plugins with
  | nil => rfl
  | cons p ps ih =>
    funext f
    rw [askField, askAll, ih]
    refine bind_congr ?_
    rintro ⟨g, kept⟩
    cases kept <;> rfl

theorem askDeclaration_eq {m : Type → Type} [Monad m] (table : Table)
    (plugins : List (Plugin m)) :
    askDeclaration table plugins = askAll (fun p d => p.declarationCreated d table) plugins := by
  induction plugins with
  | nil => rfl
  | cons p ps ih =>
    funext d
    rw [askDeclaration, askAll, ih]
    refine bind_congr ?_
    rintro ⟨e, kept⟩
    cases kept <;> rfl

variable [LawfulMonad m] {plugins : List (Plugin m)} {hooks : List Hooks}

theorem gives_askAll {α : Type} {hook : Plugin m → α → m (α × Bool)} {ask : Hooks → α → α × Bool}
    (each : ∀ p h, Plugin.Follows p h → ∀ a, Gives (hook p a) (ask h a))
    (follow : List.Forall₂ Plugin.Follows plugins hooks) (a : α) :
    ∃ b kept, Gives (askAll hook plugins a) (b, kept) ∧
      Hooks.keepAll ask hooks a = if kept then some b else none := by
  induction follow generalizing a with
  | nil => exact ⟨a, true, .pure _, rfl⟩
  | @cons p h ps hs head _ ih =>
    have asked := each p h head a
    rcases made : ask h a with ⟨b, kept⟩
    rw [made] at asked
    cases kept with
    | false => exact ⟨b, false, .bind asked (.pure _), by simp [Hooks.keepAll, made]⟩
    | true =>
      obtain ⟨c, kept, given, result⟩ := ih b
      exact ⟨c, kept, .bind asked given, by simpa [Hooks.keepAll, made] using result⟩

theorem gives_askField (follow : List.Forall₂ Plugin.Follows plugins hooks) (d : Declaration)
    (c : Column) (table : Table) (f : Field) :
    ∃ g kept, Gives (askField d c table plugins f) (g, kept) ∧
      Hooks.keepField d c table hooks f = if kept then some g else none := by
  rw [askField_eq]
  exact gives_askAll (fun _ _ head f => head.fieldCreated f d c table .baseRecord) follow f

theorem gives_askDeclaration (follow : List.Forall₂ Plugin.Follows plugins hooks) (table : Table)
    (d : Declaration) :
    ∃ e kept, Gives (askDeclaration table plugins d) (e, kept) ∧
      Hooks.keepDeclaration table hooks d = if kept then some e else none := by
  rw [askDeclaration_eq]
  exact gives_askAll (fun _ _ head d => head.declarationCreated d table) follow d

theorem gives_collect (follow : List.Forall₂ Plugin.Follows plugins hooks) (table : Table) :
    Gives (collect table plugins) (hooks.flatMap (·.extras table)) := by
  induction follow with
  | nil => exact .pure _
  | cons head _ ih => exact .bind (head.additionalArtifacts table) (.bind ih (.pure _))

theorem gives_buildFields (follow : List.Forall₂ Plugin.Follows plugins hooks) (table : Table)
    (columns : List Column) (d : Declaration) :
    Gives (buildFields plugins table columns d)
      (columns.foldl (Hooks.addColumn hooks table) d) := by
  induction columns generalizing d with
  | nil => exact .pure _
  | cons c columns ih =>
    obtain ⟨f, kept, asked, result⟩ := gives_askField follow d c table (Record.field c)
    rw [List.foldl_cons, Hooks.addColumn, result]
    cases kept with
    | false => exact .bind asked (.bind (.note _ _) (ih _))
    | true => exact .bind asked (ih _)

theorem gives_buildRecord (follow : List.Forall₂ Plugin.Follows plugins hooks) (table : Table) :
    Gives (buildRecord plugins table) (Hooks.record hooks table) := by
  have built := gives_buildFields follow table table.columns (Record.empty table)
  obtain ⟨d, kept, asked, result⟩ :=
    gives_askDeclaration follow table (Hooks.properties hooks table)
  rw [Hooks.record, result]
  cases kept with
  | false => exact .bind built (.bind asked (.bind (.note _ _) (.pure _)))
  | true => exact .bind built (.bind asked (.pure _))

theorem gives_buildTables (follow : List.Forall₂ Plugin.Follows plugins hooks)
    (recordProject : String) (tables : List Table) :
    Gives (buildTables plugins recordProject tables)
      (Hooks.records hooks recordProject tables, Hooks.allExtras hooks tables) := by
  induction tables with
  | nil => exact .pure _
  | cons table tables ih =>
    refine .bind (gives_buildRecord follow table) (.bind (gives_collect follow table) ?_)
    have added : Hooks.allExtras hooks (table :: tables) =
        hooks.flatMap (·.extras table) ++ Hooks.allExtras hooks tables := rfl
    rw [added, Hooks.records, List.filterMap_cons]
    cases Hooks.record hooks table with
    | none => exact .bind ih (.pure _)
    | some d => exact .bind ih (.pure _)

/-- The plugins that take part follow the hooks that do. -/
theorem gives_validate (follow : List.Forall₂ Plugin.Follows plugins hooks)
    (warnings : List String) :
    ∃ active, List.Forall₂ Plugin.Follows active (Hooks.takePart hooks warnings).1 ∧
      Gives (validate plugins warnings) (active, (Hooks.takePart hooks warnings).2) := by
  induction follow generalizing warnings with
  | nil => exact ⟨[], .nil, .pure _⟩
  | @cons p h ps hs head _ ih =>
    have asked := head.validate warnings
    rcases made : h.validate warnings with ⟨taken, left⟩
    obtain ⟨active, following, given⟩ := ih left
    rw [made] at asked
    rw [Hooks.takePart, made]
    cases taken with
    | false => exact ⟨active, following, .bind asked (.bind (.note _ _) (.bind given (.pure _)))⟩
    | true => exact ⟨p :: active, .cons head following, .bind asked (.bind given (.pure _))⟩

theorem gives_noteWarnings (warnings : List String) :
    Gives (noteWarnings warnings : m Unit) () := by
  induction warnings with
  | nil => exact .pure _
  | cons w ws ih => exact .bind (.note _ _) ih

/-- A pass of plugins that only report gives, in any monad, what their hooks make. -/
theorem gives_output (follow : List.Forall₂ Plugin.Follows plugins hooks) (recordProject : String)
    (tables : List Table) :
    Gives (run { plugins, recordProject } tables) (Hooks.output hooks recordProject tables) := by
  obtain ⟨active, following, given⟩ := gives_validate follow []
  exact .bind given (.bind (gives_noteWarnings _)
    (.bind (gives_buildTables following recordProject tables) (.bind (.note _ _) (.pure _))))

end Pass

end RecordSynth
