import RecordSynth.Proofs.Pass.Hooks
/-!
# Tables on their own

A run carries two lists through all of its tables. If the hooks of its plugins are functions, nothing
else gets from one table to the next: what a run makes of some tables followed by others is what it
makes of the ones, followed by what it makes of the others, record classes and additions apart.
-/

namespace RecordSynth

/-! ## Lists put together from parts -/

section

variable {α β : Type} {f : List α → List β}

/-- What respects appending is put together from what it gives for each element alone. -/
theorem eq_flatMap_of_append (append : ∀ as bs, f (as ++ bs) = f as ++ f bs) (as : List α) :
    f as = as.flatMap fun a => f [a] := by
  induction as with
  | nil =>
    have lengths := congrArg List.length (append [] [])
    rw [List.nil_append, List.length_append] at lengths
    have empty : (f []).length = 0 := by omega
    simpa using empty
  | cons a as ih =>
    have first := append [a] as
    rw [List.singleton_append] at first
    rw [first, ih, List.flatMap_cons]

/-- Elements in another order give the same parts in another order. -/
theorem perm_of_append (append : ∀ as bs, f (as ++ bs) = f as ++ f bs) {as bs : List α}
    (same : as.Perm bs) : (f as).Perm (f bs) := by
  rw [eq_flatMap_of_append append as, eq_flatMap_of_append append bs]
  exact same.flatMap_right _

end

/-! ## The parts of a run -/

namespace Hooks

theorem records_append (hooks : List Hooks) (recordProject : String) (front back : List Table) :
    records hooks recordProject (front ++ back) =
      records hooks recordProject front ++ records hooks recordProject back :=
  List.filterMap_append

theorem allExtras_append (hooks : List Hooks) (front back : List Table) :
    allExtras hooks (front ++ back) = allExtras hooks front ++ allExtras hooks back :=
  List.flatMap_append

end Hooks

/-- The plugin whose hooks are functions and report nothing. -/
def Plugin.ofHooks {m : Type → Type} [Monad m] (h : Hooks) : Plugin m where
  name := h.name
  validate warnings := pure (h.validate warnings)
  fieldCreated f d c table kind := pure (h.field f d c table kind)
  declarationCreated d table := pure (h.declaration d table)
  additionalArtifacts table := pure (h.extras table)

namespace Pass

variable {m : Type → Type} [Monad m] [MonadJournal m]

/-- A run up to the point where its artifacts are put together: the record classes of the tables,
what the plugins added for them, and the warnings. -/
def parts (pass : Pass m) (tables : List Table) :
    m (List Artifact × List Artifact × List String) := do
  let (active, warnings) ← validate pass.plugins []
  noteWarnings warnings
  let (records, extras) ← buildTables active pass.recordProject tables
  return (records, extras, warnings)

variable [LawfulMonad m]

theorem ofHooks_follow (hooks : List Hooks) :
    List.Forall₂ Plugin.Follows (hooks.map (Plugin.ofHooks (m := m))) hooks := by
  induction hooks with
  | nil => exact .nil
  | cons h hs ih =>
    have head : Plugin.Follows (Plugin.ofHooks h : Plugin m) h :=
      { name := rfl
        validate := fun _ => .pure _
        fieldCreated := fun _ _ _ _ _ => .pure _
        declarationCreated := fun _ _ => .pure _
        additionalArtifacts := fun _ => .pure _ }
    exact .cons head ih

/-- A run puts its record classes in front of what the plugins added. -/
theorem run_eq_parts (pass : Pass m) (tables : List Table) :
    run pass tables = do
      let (records, extras, warnings) ← parts pass tables
      note .debug (toString tables.length ++ " table(s): " ++ toString records.length ++
        " record class(es), " ++ toString extras.length ++ " plugin artifact(s)")
      return { artifacts := records ++ extras, warnings } := by
  simp [run, parts]

theorem gives_parts {plugins : List (Plugin m)} {hooks : List Hooks}
    (follow : List.Forall₂ Plugin.Follows plugins hooks) (recordProject : String)
    (tables : List Table) :
    Gives (parts { plugins, recordProject } tables)
      (Hooks.records (Hooks.takePart hooks []).1 recordProject tables,
        Hooks.allExtras (Hooks.takePart hooks []).1 tables, (Hooks.takePart hooks []).2) := by
  obtain ⟨active, following, given⟩ := gives_validate follow []
  refine .bind given (.bind (gives_noteWarnings _) ?_)
  exact .bind (gives_buildTables following recordProject tables) (.pure _)

/-- In a pass of plugins whose hooks are functions, tables do not know of each other. The record
classes of two lists of tables are those of the one followed by those of the other, and so is what
the plugins add; the warnings are the same for all lists. So each list is put together from the record
classes and the additions that a run over a single table makes, and another order of the tables is
another order of these. -/
theorem run_tables_independent {plugins : List (Plugin m)} {hooks : List Hooks}
    (follow : List.Forall₂ Plugin.Follows plugins hooks) (recordProject : String) :
    ∃ (records extras : List Table → List Artifact) (warnings : List String),
      (∀ tables, Gives (parts { plugins, recordProject } tables)
          (records tables, extras tables, warnings) ∧
        Gives (run { plugins, recordProject } tables)
          { artifacts := records tables ++ extras tables, warnings }) ∧
      (∀ front back, records (front ++ back) = records front ++ records back ∧
        extras (front ++ back) = extras front ++ extras back ∧
        Gives (run { plugins, recordProject } (front ++ back))
          { artifacts := records front ++ records back ++ extras front ++ extras back
            warnings }) ∧
      (∀ tables, records tables = tables.flatMap (fun table => records [table]) ∧
        extras tables = (tables.map fun table => extras [table]).flatten) ∧
      ∀ tables permuted, tables.Perm permuted → (records tables).Perm (records permuted) ∧
        (tables.map fun table => extras [table]).Perm (permuted.map fun table => extras [table]) := by
  set records := Hooks.records (Hooks.takePart hooks []).1 recordProject
  set extras := Hooks.allExtras (Hooks.takePart hooks []).1
  set warnings := (Hooks.takePart hooks []).2
  have recordsAppend : ∀ front back, records (front ++ back) = records front ++ records back :=
    Hooks.records_append _ recordProject
  have extrasAppend : ∀ front back, extras (front ++ back) = extras front ++ extras back :=
    Hooks.allExtras_append _
  have made : ∀ tables, Gives (run { plugins, recordProject } tables)
      { artifacts := records tables ++ extras tables, warnings } := by
    intro tables
    rw [run_eq_parts]
    exact .bind (gives_parts follow recordProject tables) (.bind (.note _ _) (.pure _))
  refine ⟨records, extras, warnings, ?_, ?_, ?_, ?_⟩
  · intro tables
    exact ⟨gives_parts follow recordProject tables, made tables⟩
  · intro front back
    have both := made (front ++ back)
    rw [recordsAppend, extrasAppend, ← List.append_assoc] at both
    exact ⟨recordsAppend front back, extrasAppend front back, both⟩
  · intro tables
    refine ⟨eq_flatMap_of_append recordsAppend tables, ?_⟩
    rw [eq_flatMap_of_append extrasAppend tables, List.flatMap_def]
  · intro tables permuted same
    exact ⟨perm_of_append recordsAppend same, same.map _⟩

/-- A plugin that refuses a record class and a field, and adds an interface for every table. -/
theorem run_tables_independent_refusing :
    let hooks : Hooks :=
      { name := "refusing"
        validate := fun warnings => (true, warnings ++ ["hidden tables"])
        field := fun f _ c _ _ => (f, c.name != "SECRET")
        declaration := fun d table => (d, table.name != "HIDDEN")
        extras := fun table => [{
          declaration := { name := table.recordType.name, kind := .interfaceType }
          targetProject := "extra" }] }
    let named := fun simple : Identifier =>
      TypeExpr.ofName { scope := [⟨"model", by decide⟩], simple }
    let secret := Column.derive "SECRET" (.ofName (.implicit ⟨"String", by decide⟩))
    let hidden : Table := { name := "HIDDEN", recordType := named ⟨"Hidden", by decide⟩ }
    let shown : Table :=
      { name := "SHOWN", recordType := named ⟨"Shown", by decide⟩, columns := [secret] }
    let pass : Pass Id := { plugins := [Plugin.ofHooks hooks], recordProject := "out" }
    List.Forall₂ Plugin.Follows pass.plugins [hooks] ∧
      (run pass [hidden, shown]).artifacts =
        (parts pass [hidden]).1 ++ (parts pass [shown]).1 ++ (parts pass [hidden]).2.1 ++
          (parts pass [shown]).2.1 ∧
      (run pass [hidden, shown]).artifacts.map (fun a => (a.declaration.name.text,
        a.declaration.kind, a.declaration.fields)) =
        [("model.Shown", .classType, []), ("model.Hidden", .interfaceType, []),
          ("model.Shown", .interfaceType, [])] := by
  intro hooks named secret hidden shown pass
  have follow := ofHooks_follow (m := Id) [hooks]
  refine ⟨follow, ?_, by decide⟩
  obtain ⟨records, extras, warnings, each, append, -, -⟩ := run_tables_independent follow "out"
  have whole : ∀ tables, parts pass tables = (records tables, extras tables, warnings) := by
    intro tables
    obtain ⟨⟨journal, given⟩, -⟩ := each tables
    exact given
  obtain ⟨journal, given⟩ := (append [hidden] [shown]).2.2
  rw [whole, whole]
  exact congrArg PassOutput.artifacts given

end Pass

end RecordSynth
