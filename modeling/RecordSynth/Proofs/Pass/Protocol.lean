import RecordSynth.Proofs.Pass.Hooks
import RecordSynth.Proofs.Record
/-!
# The order of hook calls

What a pass asks its plugins, in which order, and what it makes of the answers. Plugins are known by
their places in the list of the pass. Their hooks may do anything in the monad of the run, and each
may do anything to the warnings that it is shown; a pass is compared with the same pass of plugins
that keep a record of every call.
-/

namespace RecordSynth

/-! ## Calls -/

/-- A call of a hook: the place of the plugin, what the hook was given and what it answered. -/
inductive HookCall where
  | validate (plugin : Nat) (shown : List String) (active : Bool) (left : List String)
  | fieldCreated (d : Declaration) (column : Column) (table : Table) (kind : RecordKind)
      (plugin : Nat) (given made : Field) (kept : Bool)
  | declarationCreated (table : Table) (plugin : Nat) (given made : Declaration) (kept : Bool)
  | additionalArtifacts (table : Table) (plugin : Nat) (made : List Artifact)

/-- Plugins in order are asked whether they take part, each with the warnings that the one before
left. The last two are those that take part and the warnings that the last plugin left. -/
inductive Validated : List Nat → List String → List HookCall → List Nat → List String → Prop
  | done (warnings : List String) : Validated [] warnings [] [] warnings
  | takes {p : Nat} {ps active : List Nat} {shown left final : List String}
      {calls : List HookCall} (rest : Validated ps left calls active final) :
      Validated (p :: ps) shown (.validate p shown true left :: calls) (p :: active) final
  | rests {p : Nat} {ps active : List Nat} {shown left final : List String}
      {calls : List HookCall} (rest : Validated ps left calls active final) :
      Validated (p :: ps) shown (.validate p shown false left :: calls) active final

/-- The plugin put warnings behind those that it was shown. -/
inductive HookCall.Reports : HookCall → List String → Prop
  | behind (p : Nat) (shown : List String) (active : Bool) (own : List String) :
    Reports (.validate p shown active (shown ++ own)) own

/-- What plugins only put behind the warnings before is there in the end, in the same order. -/
theorem Validated.warnings_eq {ps active : List Nat} {shown final : List String}
    {calls : List HookCall} (asked : Validated ps shown calls active final)
    {reported : List (List String)} (reports : List.Forall₂ HookCall.Reports calls reported) :
    final = shown ++ reported.flatten := by
  induction asked generalizing reported with
  | done warnings =>
    cases reports
    rw [List.flatten_nil, List.append_nil]
  | takes _ ih | rests _ ih =>
    obtain _ | ⟨own, others⟩ := reports
    obtain ⟨p, shown, active, own⟩ := own
    rw [ih others, List.flatten_cons, List.append_assoc]

/-- Plugins in order are asked about a value, each about what the one before made of it, up to and
including the first that refuses it. The last two are what became of the value and whether all kept
it. -/
inductive Asked {α : Type} (call : Nat → α → α → Bool → HookCall) :
    List Nat → α → List HookCall → α → Bool → Prop
  | done (a : α) : Asked call [] a [] a true
  | kept {p : Nat} {ps : List Nat} {a b c : α} {calls : List HookCall} {answer : Bool}
      (rest : Asked call ps b calls c answer) :
      Asked call (p :: ps) a (call p a b true :: calls) c answer
  | refused (p : Nat) (ps : List Nat) (a b : α) : Asked call (p :: ps) a [call p a b false] b false

/-- The columns of a table are taken in order, and the plugins asked about the field of each while
the record class holds exactly the fields kept so far. -/
inductive ColumnsTaken (plugins : List Nat) (table : Table) :
    List (Column × Field) → List Column → List HookCall → List (Column × Field) → Prop
  | done (kept : List (Column × Field)) : ColumnsTaken plugins table kept [] [] kept
  | kept {soFar final : List (Column × Field)} {c : Column} {cs : List Column} {f : Field}
      {calls later : List HookCall}
      (asked : Asked (.fieldCreated (Record.holding table soFar) c table .baseRecord) plugins
        (Record.field c) calls f true)
      (rest : ColumnsTaken plugins table (soFar ++ [(c, f)]) cs later final) :
      ColumnsTaken plugins table soFar (c :: cs) (calls ++ later) final
  | dropped {soFar final : List (Column × Field)} {c : Column} {cs : List Column} {f : Field}
      {calls later : List HookCall}
      (asked : Asked (.fieldCreated (Record.holding table soFar) c table .baseRecord) plugins
        (Record.field c) calls f false)
      (rest : ColumnsTaken plugins table soFar cs later final) :
      ColumnsTaken plugins table soFar (c :: cs) (calls ++ later) final

/-- What is seen of a table in a pass. -/
structure Visit where
  calls : List HookCall
  /-- The record class, unless a plugin refused it. -/
  record : Option Declaration
  extras : List Artifact

/-- A table is visited: its columns are taken, then the plugins are asked about the record class,
and then every plugin for artifacts, whatever became of the record class. -/
def Visited (plugins : List Nat) (table : Table) (v : Visit) : Prop :=
  ∃ kept fieldCalls d answer declarationCalls made,
    ColumnsTaken plugins table [] table.columns fieldCalls kept ∧
    Asked (.declarationCreated table) plugins (Record.holding table kept) declarationCalls d
      answer ∧
    made.length = plugins.length ∧
    v.calls = fieldCalls ++ declarationCalls ++
      List.zipWith (HookCall.additionalArtifacts table) plugins made ∧
    v.record = (if answer then some d else none) ∧
    v.extras = made.flatten

/-- A pass asks every plugin once whether it takes part, then visits the tables in order with those
that do. The record classes that nobody refused come first, then what the plugins added, by table
and by plugin. The warnings are those that the last plugin left, so if each of them only put its own
behind those that it was shown, they are what all reported, in order. -/
def FollowsProtocol (plugins : List Nat) (recordProject : String) (tables : List Table)
    (calls : List HookCall) (output : PassOutput) : Prop :=
  ∃ (validations : List HookCall) (active : List Nat) (visits : List Visit),
    Validated plugins [] validations active output.warnings ∧
    List.Forall₂ (Visited active) tables visits ∧
    calls = validations ++ visits.flatMap (·.calls) ∧
    output.artifacts = (visits.filterMap fun v => v.record.map fun declaration =>
        { declaration, targetProject := recordProject }) ++ visits.flatMap (·.extras) ∧
    ∀ reported, List.Forall₂ HookCall.Reports validations reported →
      output.warnings = reported.flatten

/-! ## Recording -/

section

variable {m : Type → Type}

namespace Pass

/-- Plugins with their places in the list. -/
def placed (plugins : List (Plugin m)) : List (Nat × Plugin m) :=
  plugins.mapIdx fun i p => (i, p)

/-- Plugins as they are. -/
abbrev plainly (ps : List (Nat × Plugin m)) : List (Plugin m) := ps.map (·.2)

/-- The places of plugins. -/
abbrev places (ps : List (Nat × Plugin m)) : List Nat := ps.map (·.1)

theorem plainly_placed (plugins : List (Plugin m)) : plainly (placed plugins) = plugins := by
  refine List.ext_getElem (by simp [placed]) ?_
  intro i _ _
  simp [placed]

theorem places_placed (plugins : List (Plugin m)) :
    places (placed plugins) = List.range plugins.length := by
  refine List.ext_getElem (by simp [placed]) ?_
  intro i _ _
  simp [placed]

end Pass

variable [Monad m]

instance [MonadJournal m] : MonadJournal (StateT (List HookCall) m) :=
  ⟨fun level text => StateT.lift (note level text)⟩

/-- A computation, and a record of the call that it is. -/
def recordCall {α : Type} (call : α → HookCall) (x : m α) : StateT (List HookCall) m α := do
  let a ← StateT.lift x
  modify (· ++ [call a])
  return a

/-- The plugin in a place of the list, with a record of every call of its hooks. -/
def Plugin.recorded (place : Nat) (p : Plugin m) : Plugin (StateT (List HookCall) m) where
  name := p.name
  validate shown := recordCall (fun r => .validate place shown r.1 r.2) (p.validate shown)
  fieldCreated f d c table kind :=
    recordCall (fun r => .fieldCreated d c table kind place f r.1 r.2)
      (p.fieldCreated f d c table kind)
  declarationCreated d table :=
    recordCall (fun r => .declarationCreated table place d r.1 r.2) (p.declarationCreated d table)
  additionalArtifacts table :=
    recordCall (.additionalArtifacts table place) (p.additionalArtifacts table)

namespace Pass

/-- Plugins with a record of every call. -/
abbrev recording (ps : List (Nat × Plugin m)) : List (Plugin (StateT (List HookCall) m)) :=
  ps.map fun q => q.2.recorded q.1

/-- The pass with a record of every call. -/
def recorded (pass : Pass m) : Pass (StateT (List HookCall) m) where
  plugins := recording (placed pass.plugins)
  recordProject := pass.recordProject

end Pass

/-! ## Runs with and without a record -/

/-- What two runs of the same steps give, and the calls that one of them recorded. -/
structure Traced {α β : Type} (P : α → β → List HookCall → Prop) where
  plain : α
  recorded : β
  calls : List HookCall
  holds : P plain recorded calls

/-- The second computation is the first one with a record of its calls behind those that were
recorded before. -/
def Records {α β : Type} (x : m α) (y : StateT (List HookCall) m β)
    (P : α → β → List HookCall → Prop) : Prop :=
  ∃ z : m (Traced P), x = Traced.plain <$> z ∧
    ∀ before, y.run before = (fun t => (t.recorded, before ++ t.calls)) <$> z

variable [LawfulMonad m] {α β γ δ : Type}

theorem Records.pure {P : α → β → List HookCall → Prop} {a : α} {b : β} (holds : P a b []) :
    Records (pure a : m α) (pure b) P :=
  ⟨Pure.pure ⟨a, b, [], holds⟩, by simp, by simp⟩

theorem Records.note [MonadJournal m] (level : Level) (text : String) :
    Records (note level text : m Unit) (note level text) fun _ _ calls => calls = [] := by
  refine ⟨(fun _ => ⟨(), (), [], rfl⟩) <$> (MonadJournal.note level text : m Unit), ?_, ?_⟩
  · simp
  · intro before
    change (StateT.lift (MonadJournal.note level text)).run before = _
    simp

theorem Records.call (call : α → HookCall) (x : m α) :
    Records x (recordCall call x) fun a b calls => a = b ∧ calls = [call a] := by
  refine ⟨(fun a => ⟨a, a, [call a], rfl, rfl⟩) <$> x, ?_, ?_⟩
  · simp
  · intro before
    simp [recordCall]

theorem Records.mono {x : m α} {y : StateT (List HookCall) m β}
    {P Q : α → β → List HookCall → Prop} (given : Records x y P)
    (weaker : ∀ a b calls, P a b calls → Q a b calls) : Records x y Q := by
  obtain ⟨z, plain, recorded⟩ := given
  refine ⟨(fun t => ⟨t.plain, t.recorded, t.calls, weaker _ _ _ t.holds⟩) <$> z, ?_, ?_⟩
  · simp [plain]
  · intro before
    simp [recorded]

theorem Records.bind {x : m α} {y : StateT (List HookCall) m β} {f : α → m γ}
    {g : β → StateT (List HookCall) m δ} {P : α → β → List HookCall → Prop}
    {Q : γ → δ → List HookCall → Prop} (first : Records x y P)
    (second : ∀ a b calls, P a b calls →
      Records (f a) (g b) fun c d later => Q c d (calls ++ later)) :
    Records (x >>= f) (y >>= g) Q := by
  obtain ⟨z, plain, recorded⟩ := first
  -- What the second step does depends on the result of the first, so it is chosen for each.
  choose next nextPlain nextRecorded using
    fun t : Traced P => second t.plain t.recorded t.calls t.holds
  refine ⟨z >>= fun t => (fun u => ⟨u.plain, u.recorded, t.calls ++ u.calls, u.holds⟩) <$> next t,
    ?_, ?_⟩
  · simp [plain, nextPlain]
  · intro before
    simp [recorded, nextRecorded]

/-! ## Each step of a pass

The steps are followed for any part of the list of plugins, which are given with their places. -/

namespace Pass

theorem records_askAll {hook : Plugin m → α → m (α × Bool)}
    {recordedHook : Plugin (StateT (List HookCall) m) → α → StateT (List HookCall) m (α × Bool)}
    {call : Nat → α → α → Bool → HookCall}
    (each : ∀ place p a, recordedHook (p.recorded place) a =
      recordCall (fun r => call place a r.1 r.2) (hook p a))
    (ps : List (Nat × Plugin m)) (a : α) :
    Records (askAll hook (plainly ps) a) (askAll recordedHook (recording ps) a)
      fun b c calls => b = c ∧ Asked call (places ps) a calls b.1 b.2 := by
  induction ps generalizing a with
  | nil => exact .pure ⟨rfl, .done a⟩
  | cons q ps ih =>
    have first := Records.call (fun r => call q.1 a r.1 r.2) (hook q.2 a)
    rw [← each] at first
    refine .bind first ?_
    rintro ⟨b, kept⟩ _ _ ⟨rfl, rfl⟩
    cases kept with
    | false => exact .pure ⟨rfl, .refused _ _ _ _⟩
    | true =>
      refine (ih b).mono ?_
      rintro c _ calls ⟨rfl, rest⟩
      exact ⟨rfl, .kept rest⟩

theorem records_askField (ps : List (Nat × Plugin m)) (d : Declaration) (c : Column)
    (table : Table) (f : Field) :
    Records (askField d c table (plainly ps) f) (askField d c table (recording ps) f)
      fun a b calls => a = b ∧
        Asked (.fieldCreated d c table .baseRecord) (places ps) f calls a.1 a.2 := by
  rw [askField_eq, askField_eq]
  exact records_askAll (fun _ _ _ => rfl) ps f

theorem records_askDeclaration (ps : List (Nat × Plugin m)) (table : Table) (d : Declaration) :
    Records (askDeclaration table (plainly ps) d) (askDeclaration table (recording ps) d)
      fun a b calls => a = b ∧
        Asked (.declarationCreated table) (places ps) d calls a.1 a.2 := by
  rw [askDeclaration_eq, askDeclaration_eq]
  exact records_askAll (fun _ _ _ => rfl) ps d

theorem records_collect (ps : List (Nat × Plugin m)) (table : Table) :
    Records (collect table (plainly ps)) (collect table (recording ps))
      fun a b calls => a = b ∧ ∃ made, made.length = (places ps).length ∧
        calls = List.zipWith (HookCall.additionalArtifacts table) (places ps) made ∧
        a = made.flatten := by
  induction ps with
  | nil => exact .pure ⟨rfl, [], rfl, rfl, rfl⟩
  | cons q ps ih =>
    refine .bind (.call _ _) ?_
    rintro own _ _ ⟨rfl, rfl⟩
    refine .bind ih ?_
    rintro _ _ _ ⟨rfl, made, complete, rfl, rfl⟩
    refine .pure ⟨rfl, own :: made, ?_, ?_, rfl⟩
    · simpa using complete
    · simp

variable [MonadJournal m]

theorem records_buildFields (ps : List (Nat × Plugin m)) (table : Table) (columns : List Column)
    (soFar : List (Column × Field)) :
    Records (buildFields (plainly ps) table columns (Record.holding table soFar))
      (buildFields (recording ps) table columns (Record.holding table soFar))
      fun a b calls => a = b ∧ ∃ kept, a = Record.holding table kept ∧
        ColumnsTaken (places ps) table soFar columns calls kept := by
  induction columns generalizing soFar with
  | nil => exact .pure ⟨rfl, soFar, rfl, .done soFar⟩
  | cons c columns ih =>
    refine .bind (records_askField ps (Record.holding table soFar) c table (Record.field c)) ?_
    rintro ⟨f, answer⟩ _ calls ⟨rfl, asked⟩
    cases answer with
    | false =>
      refine .bind (.note _ _) ?_
      rintro _ _ _ rfl
      refine (ih soFar).mono ?_
      rintro _ _ later ⟨rfl, kept, rfl, rest⟩
      exact ⟨rfl, kept, rfl, .dropped asked rest⟩
    | true =>
      -- The declaration that the next column is shown holds this field too.
      dsimp only
      rw [Record.addProperty_holding]
      refine (ih (soFar ++ [(c, f)])).mono ?_
      rintro _ _ later ⟨rfl, kept, rfl, rest⟩
      exact ⟨rfl, kept, rfl, .kept asked rest⟩

theorem records_buildRecord (ps : List (Nat × Plugin m)) (table : Table) :
    Records (buildRecord (plainly ps) table) (buildRecord (recording ps) table)
      fun a b calls => a = b ∧ ∃ kept fieldCalls d answer declarationCalls,
        ColumnsTaken (places ps) table [] table.columns fieldCalls kept ∧
        Asked (.declarationCreated table) (places ps) (Record.holding table kept) declarationCalls d
          answer ∧
        calls = fieldCalls ++ declarationCalls ∧ a = if answer then some d else none := by
  have start : Record.empty table = Record.holding table [] := Record.withProperties_eq table []
  unfold buildRecord
  rw [start]
  refine .bind (records_buildFields ps table table.columns []) ?_
  rintro _ _ fieldCalls ⟨rfl, kept, rfl, taken⟩
  refine .bind (records_askDeclaration ps table (Record.holding table kept)) ?_
  rintro ⟨d, answer⟩ _ declarationCalls ⟨rfl, asked⟩
  cases answer with
  | false =>
    refine .bind (.note _ _) ?_
    rintro _ _ _ rfl
    refine .pure ⟨rfl, kept, fieldCalls, d, false, declarationCalls, taken, asked, ?_, rfl⟩
    simp
  | true =>
    refine .pure ⟨rfl, kept, fieldCalls, d, true, declarationCalls, taken, asked, ?_, rfl⟩
    simp

/-- The record classes among what is seen of tables. -/
def recordsOf (recordProject : String) (visits : List Visit) : List Artifact :=
  visits.filterMap fun v => v.record.map fun declaration =>
    { declaration, targetProject := recordProject }

theorem records_buildTables (ps : List (Nat × Plugin m)) (recordProject : String)
    (tables : List Table) :
    Records (buildTables (plainly ps) recordProject tables)
      (buildTables (recording ps) recordProject tables)
      fun a b calls => a = b ∧ ∃ visits, List.Forall₂ (Visited (places ps)) tables visits ∧
        calls = visits.flatMap (·.calls) ∧
        a = (recordsOf recordProject visits, visits.flatMap (·.extras)) := by
  induction tables with
  | nil => exact .pure ⟨rfl, [], .nil, rfl, rfl⟩
  | cons table tables ih =>
    refine .bind (records_buildRecord ps table) ?_
    rintro record _ _ ⟨rfl, kept, fieldCalls, d, answer, declarationCalls, taken, asked, rfl, built⟩
    refine .bind (records_collect ps table) ?_
    rintro _ _ _ ⟨rfl, made, complete, rfl, rfl⟩
    refine .bind ih ?_
    rintro _ _ _ ⟨rfl, visits, visited, rfl, rfl⟩
    let visit : Visit :=
      { calls := fieldCalls ++ declarationCalls ++
          List.zipWith (HookCall.additionalArtifacts table) (places ps) made
        record
        extras := made.flatten }
    refine .pure ⟨rfl, visit :: visits, .cons ?_ visited, ?_, ?_⟩
    · exact ⟨kept, fieldCalls, d, answer, declarationCalls, made, taken, asked, complete, rfl,
        built, rfl⟩
    · simp [visit]
    · cases record with
      | none => rfl
      | some declaration => rfl

/-- All plugins are asked whether they take part, and those that do go on with their places. -/
theorem records_validate (ps : List (Nat × Plugin m)) (shown : List String) :
    Records (validate (plainly ps) shown) (validate (recording ps) shown)
      fun a b calls => ∃ (active : List (Nat × Plugin m)) (final : List String),
        a = (plainly active, final) ∧ b = (recording active, final) ∧
        Validated (places ps) shown calls (places active) final := by
  induction ps generalizing shown with
  | nil => exact .pure ⟨[], shown, rfl, rfl, .done shown⟩
  | cons q ps ih =>
    refine .bind (.call _ _) ?_
    rintro ⟨taken, left⟩ _ _ ⟨rfl, rfl⟩
    cases taken with
    | false =>
      refine .bind (.note _ _) ?_
      rintro _ _ _ rfl
      refine .bind (ih left) ?_
      rintro _ _ calls ⟨active, final, rfl, rfl, asked⟩
      refine .pure ⟨active, final, rfl, rfl, ?_⟩
      rw [List.append_nil]
      exact .rests asked
    | true =>
      refine .bind (ih left) ?_
      rintro _ _ calls ⟨active, final, rfl, rfl, asked⟩
      refine .pure ⟨q :: active, final, rfl, rfl, ?_⟩
      rw [List.append_nil]
      exact .takes asked

theorem records_noteWarnings (warnings : List String) :
    Records (noteWarnings warnings : m Unit) (noteWarnings warnings)
      fun _ _ calls => calls = [] := by
  induction warnings with
  | nil => exact .pure rfl
  | cons w ws ih =>
    refine .bind (.note _ _) ?_
    rintro _ _ _ rfl
    exact ih

theorem records_run (ps : List (Nat × Plugin m)) (recordProject : String) (tables : List Table) :
    Records (run { plugins := plainly ps, recordProject } tables)
      (run { plugins := recording ps, recordProject } tables)
      fun a b calls => a = b ∧ FollowsProtocol (places ps) recordProject tables calls a := by
  refine .bind (records_validate ps []) ?_
  rintro _ _ validations ⟨active, warnings, rfl, rfl, asked⟩
  refine .bind (records_noteWarnings _) ?_
  rintro _ _ _ rfl
  refine .bind (records_buildTables active recordProject tables) ?_
  rintro _ _ _ ⟨rfl, visits, visited, rfl, rfl⟩
  refine .bind (.note _ _) ?_
  rintro _ _ _ rfl
  refine .pure ⟨rfl, validations, places active, visits, asked, visited, ?_, rfl, ?_⟩
  · simp
  · exact fun reported reports => asked.warnings_eq reports

/-- Every run of a pass follows the protocol, whatever its plugins do to the world and to the
journal: recording its calls changes neither the output nor what the plugins did, and the calls are
those of the protocol for this output. -/
theorem run_followsProtocol {σ : Type} (pass : Pass (StateT Journal (StateM σ)))
    (tables : List Table) (journal : Journal) (world : σ) :
    ∃ output calls journal' world',
      ((run pass tables).run journal).run world = ((output, journal'), world') ∧
      (((run pass.recorded tables).run []).run journal).run world =
        (((output, calls), journal'), world') ∧
      FollowsProtocol (List.range pass.plugins.length) pass.recordProject tables calls output := by
  obtain ⟨z, plain, traced⟩ := records_run (placed pass.plugins) pass.recordProject tables
  rw [plainly_placed] at plain
  rcases result : (z.run journal).run world with ⟨⟨t, journal'⟩, world'⟩
  obtain ⟨same, follows⟩ := t.holds
  refine ⟨t.plain, t.calls, journal', world', ?_, ?_, ?_⟩
  · have whole : run pass tables = Traced.plain <$> z := plain
    rw [whole, StateT.run_map, StateT.run_map, result]
    rfl
  · have whole : (run pass.recorded tables).run [] = (fun t => (t.recorded, [] ++ t.calls)) <$> z :=
      traced []
    rw [whole, StateT.run_map, StateT.run_map, result, same]
    rfl
  · rw [← places_placed]
    exact follows

end Pass

end

end RecordSynth
