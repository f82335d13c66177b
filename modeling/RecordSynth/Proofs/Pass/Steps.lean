import RecordSynth.Proofs.Pass.Hooks
import RecordSynth.Proofs.Record
/-!
# What a pass can answer

Hooks need not be functions: they may read a world and change it. What is known of such a plugin is
how a value that it keeps is related to the value it was given. From one step of each plugin follows
what a pass makes of its tables, whatever the world was: `Behaviour.always_run`.
-/

namespace RecordSynth

/-! ## Answers -/

/-- Runs that keep a journal in a world which plugins may read and change. -/
abbrev InWorld (σ : Type) : Type → Type := StateT Journal (StateM σ)

/-- Whatever journal and world there are before, `P` holds of the answer. -/
def Always {σ α : Type} (P : α → Prop) (x : InWorld σ α) : Prop :=
  ∀ journal world, P ((x.run journal).run world).1.1

/-- The computation answers so for some journal and some world. -/
def MayAnswer {σ α : Type} (x : InWorld σ α) (a : α) : Prop :=
  ∃ journal world, ((x.run journal).run world).1.1 = a

namespace Always

variable {σ α β : Type} {P : α → Prop} {Q : β → Prop}

theorem pure {a : α} (holds : P a) : Always P (pure a : InWorld σ α) := fun _ _ => holds

theorem bind {x : InWorld σ α} {f : α → InWorld σ β} (first : Always P x)
    (second : ∀ a, P a → Always Q (f a)) : Always Q (x >>= f) := by
  intro journal world
  exact second _ (first journal world) _ _

theorem mono {x : InWorld σ α} {R : α → Prop} (given : Always P x) (weaker : ∀ a, P a → R a) :
    Always R x := fun journal world => weaker _ (given journal world)

theorem trivial (x : InWorld σ α) : Always (fun _ => True) x := fun _ _ => True.intro

theorem of_gives {x : InWorld σ α} {a : α} (given : Gives x a) : Always (· = a) x := by
  obtain ⟨journal, rfl⟩ := given
  exact .bind (.trivial _) fun _ _ => .pure rfl

end Always

/-! ## Steps -/

section

variable {ι α : Type}

/-- Each participant in order makes a step. -/
inductive Through (step : ι → α → α → Prop) : List ι → α → α → Prop
  | done (a : α) : Through step [] a a
  | step {i : ι} {is : List ι} {a b c : α} (first : step i a b) (rest : Through step is b c) :
    Through step (i :: is) a c

/-- Participants, and those of them that said that they take part. -/
inductive TakesPart (mayAnswer : ι → Bool → Prop) : List ι → List ι → Prop
  | nil : TakesPart mayAnswer [] []
  | takes {i : ι} {is active : List ι} (yes : mayAnswer i true)
    (others : TakesPart mayAnswer is active) : TakesPart mayAnswer (i :: is) (i :: active)
  | rests {i : ι} {is active : List ι} (no : mayAnswer i false)
    (others : TakesPart mayAnswer is active) : TakesPart mayAnswer (i :: is) active

end

/-- Participants of passes, and what is known of their plugins: whether they take part, how what they
keep is related to what they were given, and what they add. -/
structure Behaviour (σ ι : Type) where
  plugin : ι → Plugin (InWorld σ)
  mayAnswer : ι → Bool → Prop
  fieldStep : Column → ι → Field → Field → Prop
  declarationStep : Table → ι → Declaration → Declaration → Prop
  extras : Table → ι → List Artifact
  always_validate : ∀ i warnings,
    Always (fun answer => mayAnswer i answer.1) ((plugin i).validate warnings)
  always_fieldCreated : ∀ i f d c table,
    Always (fun made => made.2 = true → fieldStep c i f made.1)
      ((plugin i).fieldCreated f d c table .baseRecord)
  always_declarationCreated : ∀ i d table,
    Always (fun made => made.2 = true → declarationStep table i d made.1)
      ((plugin i).declarationCreated d table)
  always_additionalArtifacts : ∀ i table,
    Always (· = extras table i) ((plugin i).additionalArtifacts table)

namespace Behaviour

variable {σ ι : Type} (b : Behaviour σ ι)

/-- A record class of a table that participants may have made: they went one after the other through
the field of each column that was kept, and then through the class that holds these fields. -/
def Builds (active : List ι) (table : Table) (d : Declaration) : Prop :=
  ∃ kept : List (Column × Field), (kept.map Prod.fst).Sublist table.columns ∧
    (∀ k ∈ kept, Through (b.fieldStep k.1) active (Record.field k.1) k.2) ∧
    Through (b.declarationStep table) active (Record.holding table kept) d

/-! ## Each step of a pass -/

theorem always_askAll {α : Type} (hook : Plugin (InWorld σ) → α → InWorld σ (α × Bool))
    {step : ι → α → α → Prop}
    (each : ∀ i a, Always (fun made => made.2 = true → step i a made.1) (hook (b.plugin i) a))
    (active : List ι) (a : α) :
    Always (fun made => made.2 = true → Through step active a made.1)
      (Pass.askAll hook (active.map b.plugin) a) := by
  induction active generalizing a with
  | nil => exact .pure fun _ => .done a
  | cons i active ih =>
    refine .bind (each i a) ?_
    rintro ⟨c, kept⟩ asked
    cases kept with
    | false => exact .pure nofun
    | true => exact (ih c).mono fun _ rest kept => .step (asked rfl) (rest kept)

theorem always_buildFields (active : List ι) (table : Table) (columns : List Column)
    (soFar : List (Column × Field)) :
    Always (fun d => ∃ more : List (Column × Field), d = Record.holding table (soFar ++ more) ∧
        (more.map Prod.fst).Sublist columns ∧
        ∀ k ∈ more, Through (b.fieldStep k.1) active (Record.field k.1) k.2)
      (Pass.buildFields (active.map b.plugin) table columns (Record.holding table soFar)) := by
  induction columns generalizing soFar with
  | nil => exact .pure ⟨[], by rw [List.append_nil], .slnil, by simp⟩
  | cons c columns ih =>
    have asked := b.always_askAll
      (fun p f => p.fieldCreated f (Record.holding table soFar) c table .baseRecord)
      (fun i f => b.always_fieldCreated i f _ c table) active (Record.field c)
    rw [← Pass.askField_eq] at asked
    refine .bind asked ?_
    rintro ⟨f, answer⟩ through
    cases answer with
    | false =>
      refine .bind (.trivial _) fun _ _ => (ih soFar).mono ?_
      rintro d ⟨more, rfl, among, each⟩
      exact ⟨more, rfl, among.cons c, each⟩
    | true =>
      dsimp only
      rw [Record.addProperty_holding]
      refine (ih (soFar ++ [(c, f)])).mono ?_
      rintro d ⟨more, rfl, among, each⟩
      refine ⟨(c, f) :: more, by simp, among.cons_cons c, ?_⟩
      rw [List.forall_mem_cons]
      exact ⟨through rfl, each⟩

theorem always_buildRecord (active : List ι) (table : Table) :
    Always (fun record => ∀ d, record = some d → b.Builds active table d)
      (Pass.buildRecord (active.map b.plugin) table) := by
  have start : Record.empty table = Record.holding table [] := Record.withProperties_eq table []
  unfold Pass.buildRecord
  rw [start]
  refine .bind (b.always_buildFields active table table.columns []) ?_
  rintro _ ⟨kept, rfl, among, each⟩
  rw [Pass.askDeclaration_eq]
  refine .bind
    (b.always_askAll _ (fun i d => b.always_declarationCreated i d table) active _) ?_
  rintro ⟨d, answer⟩ through
  cases answer with
  | false => exact .bind (.trivial _) fun _ _ => .pure nofun
  | true =>
    refine .pure ?_
    intro e made
    obtain rfl := Option.some.inj made
    exact ⟨kept, among, each, through rfl⟩

theorem always_collect (active : List ι) (table : Table) :
    Always (· = active.flatMap (b.extras table))
      (Pass.collect table (active.map b.plugin)) := by
  induction active with
  | nil => exact .pure rfl
  | cons i active ih =>
    refine .bind (b.always_additionalArtifacts i table) ?_
    rintro _ rfl
    refine .bind ih ?_
    rintro _ rfl
    exact .pure rfl

/-- Records with the project that receives them. -/
def artifactsOf (recordProject : String) (records : List (Table × Declaration)) : List Artifact :=
  records.map fun r => { declaration := r.2, targetProject := recordProject }

theorem always_buildTables (active : List ι) (recordProject : String) (tables : List Table) :
    Always (fun made => ∃ records : List (Table × Declaration),
        (records.map Prod.fst).Sublist tables ∧ (∀ r ∈ records, b.Builds active r.1 r.2) ∧
        made = (artifactsOf recordProject records,
          tables.flatMap fun table => active.flatMap (b.extras table)))
      (Pass.buildTables (active.map b.plugin) recordProject tables) := by
  induction tables with
  | nil => exact .pure ⟨[], .slnil, by simp, rfl⟩
  | cons table tables ih =>
    refine .bind (b.always_buildRecord active table) ?_
    intro record built
    refine .bind (b.always_collect active table) ?_
    rintro _ rfl
    refine .bind ih ?_
    rintro _ ⟨records, among, each, rfl⟩
    refine .pure ?_
    cases record with
    | none => exact ⟨records, among.cons table, each, rfl⟩
    | some d =>
      refine ⟨(table, d) :: records, among.cons_cons table, ?_, rfl⟩
      rw [List.forall_mem_cons]
      exact ⟨built d rfl, each⟩

theorem always_validatePlugins (is : List ι) (warnings : List String) :
    Always (fun answer => ∃ active, TakesPart b.mayAnswer is active ∧
      answer.1 = active.map b.plugin) (Pass.validate (is.map b.plugin) warnings) := by
  induction is generalizing warnings with
  | nil => exact .pure ⟨[], .nil, rfl⟩
  | cons i is ih =>
    refine .bind (b.always_validate i warnings) ?_
    rintro ⟨answer, warnings⟩ given
    cases answer with
    | false =>
      refine .bind (.trivial _) fun _ _ => .bind (ih warnings) ?_
      rintro ⟨_, left⟩ ⟨active, others, rfl⟩
      exact .pure ⟨active, .rests given others, rfl⟩
    | true =>
      refine .bind (ih warnings) ?_
      rintro ⟨_, left⟩ ⟨active, others, rfl⟩
      exact .pure ⟨i :: active, .takes given others, rfl⟩

/-- Whatever the world was, a pass makes record classes that its participants built, for some of the
tables in order, and puts behind them what they add for each table. -/
theorem always_run (is : List ι) (recordProject : String) (tables : List Table) :
    Always (fun output => ∃ active, TakesPart b.mayAnswer is active ∧
        ∃ records : List (Table × Declaration), (records.map Prod.fst).Sublist tables ∧
          (∀ r ∈ records, b.Builds active r.1 r.2) ∧
          output.artifacts = artifactsOf recordProject records ++
            tables.flatMap fun table => active.flatMap (b.extras table))
      (Pass.run { plugins := is.map b.plugin, recordProject } tables) := by
  refine .bind (b.always_validatePlugins is []) ?_
  rintro ⟨_, warnings⟩ ⟨active, taking, rfl⟩
  refine .bind (.trivial _) fun _ _ => .bind (b.always_buildTables active recordProject tables) ?_
  rintro _ ⟨records, among, each, rfl⟩
  refine .bind (.trivial _) fun _ _ => .pure ?_
  exact ⟨active, taking, records, among, each, rfl⟩

end Behaviour

end RecordSynth
