import RecordSynth.Proofs.Pass.BuiltIn
/-!
# Settings for dates that are off

A domain plugin looks at its library only if it decorates dates, and decorates dates only where there
are some. In the one case plugins with different libraries are the same plugin. In the other they
are not, but a pass cannot tell them apart as long as fields keep the types of their columns, which
is followed here through every step of two passes side by side.
-/

namespace RecordSynth

section

variable {m : Type → Type} [Monad m] {α β : Type}

/-- `P` holds of whatever the computation answers: what comes behind it may be changed for all other
answers. -/
structure Answers (P : α → Prop) (x : m α) : Prop where
  bind_eq : ∀ {β : Type} {f g : α → m β}, (∀ a, P a → f a = g a) → x >>= f = x >>= g

theorem Answers.trivial (x : m α) : Answers (fun _ => True) x :=
  ⟨fun same => bind_congr fun a => same a True.intro⟩

/-- Without effects, a computation answers one value. -/
theorem Answers.id_iff {P : α → Prop} {x : Id α} : Answers P x ↔ P x.run := by
  constructor
  · intro answers
    have same : (x >>= fun a => (P a : Id Prop)) = (x >>= fun _ => (True : Id Prop)) :=
      answers.bind_eq fun a holds => propext (iff_true_intro holds)
    exact of_eq_true same
  · intro holds
    exact ⟨fun same => same x.run holds⟩

theorem Answers.of_gives [MonadJournal m] [LawfulMonad m] {P : α → Prop} {x : m α} {a : α}
    (given : Gives x a) (holds : P a) : Answers P x := by
  obtain ⟨journal, rfl⟩ := given
  refine ⟨fun same => ?_⟩
  simp only [bind_assoc, pure_bind, same a holds]

end

variable {m : Type → Type} [Monad m]

/-- The plugin never changes the type of a field. -/
def Plugin.KeepsTypes (p : Plugin m) : Prop :=
  ∀ f d c table kind, Answers (fun made => made.1.type = f.type) (p.fieldCreated f d c table kind)

/-- Plugins that a pass over tables cannot tell apart while fields have the types of their columns,
which they keep. -/
structure Plugin.Alike (tables : List Table) (p q : Plugin m) : Prop where
  name : p.name = q.name
  validate : p.validate = q.validate
  fieldCreated : ∀ table ∈ tables, ∀ c ∈ table.columns, ∀ f d, f.type = c.type →
    p.fieldCreated f d c table .baseRecord = q.fieldCreated f d c table .baseRecord ∧
      Answers (fun made => made.1.type = c.type) (p.fieldCreated f d c table .baseRecord)
  declarationCreated : ∀ table ∈ tables, ∀ d,
    p.declarationCreated d table = q.declarationCreated d table
  additionalArtifacts : p.additionalArtifacts = q.additionalArtifacts

theorem Plugin.KeepsTypes.alike {p : Plugin m} (keeps : p.KeepsTypes) (tables : List Table) :
    p.Alike tables p where
  name := rfl
  validate := rfl
  fieldCreated table _ c _ f d typed := by
    refine ⟨rfl, ?_⟩
    have kept := keeps f d c table .baseRecord
    rwa [typed] at kept
  declarationCreated _ _ _ := rfl
  additionalArtifacts := rfl

/-! ## Two passes side by side -/

namespace Pass

variable {tables : List Table} {ps qs : List (Plugin m)}

theorem askAll_congr {α : Type} {R : Plugin m → Plugin m → Prop} {P : α → Prop}
    {hook : Plugin m → α → m (α × Bool)}
    (each : ∀ p q, R p q → ∀ a, P a → hook p a = hook q a ∧
      Answers (fun made => P made.1) (hook p a))
    (alike : List.Forall₂ R ps qs) (a : α) (holds : P a) : askAll hook ps a = askAll hook qs a := by
  induction alike generalizing a with
  | nil => rfl
  | @cons p q ps qs head _ ih =>
    obtain ⟨same, answers⟩ := each p q head a holds
    rw [askAll, askAll, ← same]
    refine answers.bind_eq ?_
    rintro ⟨b, kept⟩ holds
    cases kept with
    | false => rfl
    | true => exact ih b holds

variable (alike : List.Forall₂ (Plugin.Alike tables) ps qs)
include alike

theorem askField_congr {table : Table} (given : table ∈ tables) {c : Column}
    (member : c ∈ table.columns) (d : Declaration) :
    askField d c table ps (Record.field c) = askField d c table qs (Record.field c) := by
  rw [askField_eq, askField_eq]
  exact askAll_congr (P := fun f => f.type = c.type)
    (fun p q same f typed => same.fieldCreated table given c member f d typed) alike _ rfl

theorem askDeclaration_congr {table : Table} (given : table ∈ tables) (d : Declaration) :
    askDeclaration table ps d = askDeclaration table qs d := by
  rw [askDeclaration_eq, askDeclaration_eq]
  exact askAll_congr (P := fun _ => True)
    (fun p q same d _ => ⟨same.declarationCreated table given d, .trivial _⟩) alike d True.intro

theorem collect_congr (table : Table) : collect table ps = collect table qs := by
  induction alike with
  | nil => rfl
  | cons head _ ih => rw [collect, collect, head.additionalArtifacts, ih]

variable [MonadJournal m]

theorem buildFields_congr {table : Table} (given : table ∈ tables) {columns : List Column}
    (among : ∀ c ∈ columns, c ∈ table.columns) (d : Declaration) :
    buildFields ps table columns d = buildFields qs table columns d := by
  induction columns generalizing d with
  | nil => rfl
  | cons c columns ih =>
    obtain ⟨member, others⟩ := List.forall_mem_cons.1 among
    rw [buildFields, buildFields, askField_congr alike given member d]
    refine bind_congr ?_
    rintro ⟨f, kept⟩
    cases kept with
    | false => exact bind_congr fun _ => ih others d
    | true => exact ih others _

theorem buildRecord_congr {table : Table} (given : table ∈ tables) :
    buildRecord ps table = buildRecord qs table := by
  rw [buildRecord, buildRecord, buildFields_congr alike given fun _ member => member]
  refine bind_congr fun d => ?_
  rw [askDeclaration_congr alike given d]

theorem buildTables_congr (recordProject : String) {visited : List Table}
    (among : ∀ table ∈ visited, table ∈ tables) :
    buildTables ps recordProject visited = buildTables qs recordProject visited := by
  induction visited with
  | nil => rfl
  | cons table visited ih =>
    obtain ⟨member, others⟩ := List.forall_mem_cons.1 among
    rw [buildTables, buildTables, buildRecord_congr alike member, collect_congr alike, ih others]

/-- The plugins that take part are alike again, so what is done with them may use that. -/
theorem validate_congr [LawfulMonad m] (warnings : List String) {β : Type}
    {f g : List (Plugin m) × List String → m β}
    (each : ∀ active active' left, List.Forall₂ (Plugin.Alike tables) active active' →
      f (active, left) = g (active', left)) :
    validate ps warnings >>= f = validate qs warnings >>= g := by
  induction alike generalizing f g warnings with
  | nil => simpa [validate] using each [] [] warnings .nil
  | @cons p q ps qs head _ ih =>
    rw [validate, validate, head.validate, head.name]
    simp only [bind_assoc]
    refine bind_congr ?_
    rintro ⟨taken, warnings⟩
    have rest : (validate ps warnings >>= fun others =>
          f (if taken then p :: others.1 else others.1, others.2)) =
        validate qs warnings >>= fun others =>
          g (if taken then q :: others.1 else others.1, others.2) := by
      refine ih warnings fun active active' left taking => each _ _ _ ?_
      cases taken with
      | false => exact taking
      | true => exact .cons head taking
    cases taken with
    | false =>
      simp only [Bool.not_false, if_true, bind_assoc, pure_bind]
      exact bind_congr fun _ => rest
    | true =>
      simp only [Bool.not_true, Bool.false_eq_true, if_false, bind_assoc, pure_bind]
      exact rest

/-- Passes whose plugins cannot be told apart one by one are the same computation. -/
theorem run_congr [LawfulMonad m] (recordProject : String) :
    run { plugins := ps, recordProject } tables = run { plugins := qs, recordProject } tables := by
  refine validate_congr alike [] ?_
  intro active active' warnings taking
  dsimp only
  rw [buildTables_congr taking recordProject fun _ member => member]

end Pass

/-! ## Decoration without dates -/

theorem Field.pattern?_of_bare {f : Field} {c : Column} (typed : f.type = c.type)
    (bare : c.meaning.isTemporal = false) (s : DomainSettings) : f.pattern? s = none := by
  have undated : c.type.meaning.datePattern? = none := by
    simpa [Column.meaning, Meaning.isTemporal] using bare
  rw [Field.pattern?, typed, undated, ite_self]

theorem DomainSettings.importsDates_of_bare {table : Table}
    (bare : table.hasTemporalColumn = false) (s : DomainSettings) :
    s.importsDates table.columns = false := by
  have undated : table.columns.any (·.meaning.isTemporal) = false := bare
  rw [importsDates, undated, Bool.and_false]

section

variable {m : Type → Type} [Monad m] [MonadJournal m]

theorem Field.decorate_of_pattern? {f : Field} {s : DomainSettings} (none : f.pattern? s = none)
    (c : Column) : (f.decorate c s : m Field) = pure f := by
  rw [decorate, decorated, none]

theorem Declaration.decorate_of_importsDates {s : DomainSettings} {columns : List Column}
    (none : s.importsDates columns = false) (d : Declaration) :
    (d.decorate columns s : m Declaration) =
      pure (if s.serializable then d.markSerializable else d) := by
  simp [decorate, decorated, none]

/-- A plugin that does not decorate dates is the same for all libraries. -/
theorem Plugin.domain_of_dateSerialize {s : DomainSettings} (off : s.dateSerialize = false)
    (json : JsonLibrary) : (Plugin.domain { s with json } : Plugin m) = Plugin.domain s := by
  have field : ∀ (f : Field) (c : Column),
      (f.decorate c { s with json } : m Field) = f.decorate c s := by
    intro f c
    rw [f.decorate_of_pattern? (by simp [Field.pattern?, off]) c,
      f.decorate_of_pattern? (by simp [Field.pattern?, off]) c]
  have declaration : ∀ (d : Declaration) (columns : List Column),
      (d.decorate columns { s with json } : m Declaration) = d.decorate columns s := by
    intro d columns
    rw [d.decorate_of_importsDates (by simp [DomainSettings.importsDates, off]),
      d.decorate_of_importsDates (by simp [DomainSettings.importsDates, off])]
  simp only [Plugin.domain, field, declaration]

variable [LawfulMonad m]

/-- Over tables without dates, domain plugins that mark record classes alike are alike. -/
theorem Plugin.domain_alike {tables : List Table} {s s' : DomainSettings}
    (bare : ∀ table ∈ tables, table.hasTemporalColumn = false)
    (marked : s'.serializable = s.serializable) :
    Plugin.Alike tables (Plugin.domain s' : Plugin m) (Plugin.domain s) where
  name := rfl
  validate := rfl
  fieldCreated table given c member f d typed := by
    have plain : c.meaning.isTemporal = false := by
      simpa using List.any_eq_false.1 (bare table given) c member
    have kept : ∀ s : DomainSettings,
        (Plugin.domain s : Plugin m).fieldCreated f d c table .baseRecord = pure (f, true) := by
      intro s
      dsimp only [Plugin.domain]
      rw [f.decorate_of_pattern? (Field.pattern?_of_bare typed plain s) c, pure_bind]
    rw [kept, kept]
    exact ⟨rfl, .of_gives (.pure _) typed⟩
  declarationCreated table given d := by
    have unimported := DomainSettings.importsDates_of_bare (bare table given)
    simp only [Plugin.domain, Declaration.decorate_of_importsDates (unimported _), marked]
  additionalArtifacts := rfl

end

/-! ## What a pass shows of the settings -/

namespace Pass

/-- Settings for dates that are off cannot be observed. Wherever a domain plugin stands among other
plugins, a pass is the same computation, and so has the same output and renders the same files, for
all libraries if the plugin does not decorate dates. If no column of the tables holds a date and no
other plugin changes the type of a field, it is the same whether the plugin decorates dates and for
all libraries. -/
theorem run_dateSettings_unobserved {m : Type → Type} [Monad m] [MonadJournal m] [LawfulMonad m]
    (front back : List (Plugin m)) (s : DomainSettings) (recordProject : String)
    (tables : List Table) :
    let pass : DomainSettings → Pass m := fun s =>
      { plugins := front ++ Plugin.domain s :: back, recordProject }
    (s.dateSerialize = false → ∀ json, run (pass { s with json }) tables = run (pass s) tables) ∧
      ((∀ table ∈ tables, table.hasTemporalColumn = false) →
        (∀ p ∈ front ++ back, p.KeepsTypes) → ∀ dateSerialize json,
          run (pass { s with dateSerialize, json }) tables = run (pass s) tables) := by
  intro pass
  refine ⟨?_, ?_⟩
  · intro off json
    simp only [pass, Plugin.domain_of_dateSerialize off json]
  · intro bare keep dateSerialize json
    refine run_congr ?_ recordProject
    have others : ∀ {ps : List (Plugin m)}, (∀ p ∈ ps, p.KeepsTypes) →
        List.Forall₂ (Plugin.Alike tables) ps ps := fun keep =>
      List.forall₂_same.2 fun p member => (keep p member).alike tables
    obtain ⟨before, behind⟩ := List.forall_mem_append.1 keep
    exact List.rel_append (others before) (.cons (Plugin.domain_alike bare rfl) (others behind))

/-- A domain plugin between one that annotates fields and the service plugin. Neither the library
nor decoration where there are no dates changes what is made; where there is a date, decoration
shows. -/
theorem run_dateSettings_unobserved_between :
    let annotating : Plugin Id :=
      { Plugin.inert "annotating" with
        fieldCreated := fun f _ _ _ _ => ({ f with annotations := f.annotations ++ ["@Column"] }, true) }
    let service : Plugin Id := Plugin.service { targetProject := some "services" }
    let pass : DomainSettings → Pass Id := fun s =>
      { plugins := [annotating, Plugin.domain s, service], recordProject := "records" }
    let person : Column → Table := fun c =>
      { name := "PERSON"
        recordType := .ofName { scope := [⟨"model", by decide⟩], simple := ⟨"Person", by decide⟩ }
        columns := [c] }
    let named : Column := .derive "NAME" (.ofName (.implicit ⟨"String", by decide⟩))
    let born : Column := .derive "BORN" (.ofName {
      scope := [.javaSegment, ⟨"time", by decide⟩], simple := ⟨"LocalDate", by decide⟩ })
    let annotations : PassOutput → List (List String) := fun output =>
      output.artifacts.flatMap fun a => a.declaration.fields.map (·.annotations)
    run (pass { json := .jackson }) [person born] = run (pass {}) [person born] ∧
      run (pass { dateSerialize := true, json := .fastjson }) [person named] =
        run (pass {}) [person named] ∧
      annotations (run (pass {}) [person named]) = [["@Column"]] ∧
      annotations (run (pass { dateSerialize := true }) [person born]) =
        [["@Column", "@DateTimeFormat(pattern = \"yyyy-MM-dd\")"]] := by
  intro annotating service pass person named born annotations
  have keep : ∀ p ∈ [annotating] ++ [service], p.KeepsTypes := by
    intro p member
    simp only [List.cons_append, List.nil_append, List.mem_cons, List.not_mem_nil, or_false] at member
    rintro f d c table kind
    obtain rfl | rfl := member <;> exact Answers.id_iff.2 rfl
  have unobserved := fun c => run_dateSettings_unobserved [annotating] [service] {} "records" [person c]
  exact ⟨(unobserved born).1 rfl .jackson, (unobserved named).2 (by decide) keep true .fastjson,
    by decide, by decide⟩

end Pass

end RecordSynth
