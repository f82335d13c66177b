import RecordSynth.Proofs.Declaration.Markers
import RecordSynth.Proofs.Pass.Imports
import RecordSynth.Proofs.Pass.Steps
/-!
# Annotations and the imports behind them

Fields are annotated one by one while a record class is put together, and the class imports what is
behind annotations when it is whole. In between, other plugins may append annotations and refuse
fields and classes. `Participant.run_annotationsAgree` says that the two never come apart, for domain
plugins, service plugins and such others in any number and order.
-/

namespace RecordSynth

/-! ## Plugins that only annotate -/

/-- The field with lines behind its annotations. -/
def Field.annotate (f : Field) (lines : List String) : Field :=
  { f with annotations := f.annotations ++ lines }

/-- The method with lines behind its annotations. -/
def Method.annotate (m : Method) (lines : List String) : Method :=
  { m with annotations := m.annotations ++ lines }

/-- Lines were put behind the annotations of the declaration and of its members, and nothing else
has become of it. -/
def Declaration.Annotated (d e : Declaration) : Prop :=
  ∃ (own : List String) (fields : List Field) (methods : List Method),
    List.Forall₂ (fun f g => ∃ lines, g = f.annotate lines) d.fields fields ∧
    List.Forall₂ (fun m k => ∃ lines, k = m.annotate lines) d.methods methods ∧
    e = { d with annotations := d.annotations ++ own, fields, methods }

/-- The hooks of the plugin refuse or append annotations, whatever the world is, and add nothing to
the output. A record class holds no other declarations, so nothing is asked about those. -/
structure Plugin.OnlyAnnotates {σ : Type} (p : Plugin (InWorld σ)) : Prop where
  fieldCreated : ∀ f d c table kind,
    Always (fun made => made.2 = true → ∃ lines, made.1 = f.annotate lines)
      (p.fieldCreated f d c table kind)
  declarationCreated : ∀ d table, d.nested = [] →
    Always (fun made => made.2 = true → d.Annotated made.1) (p.declarationCreated d table)
  additionalArtifacts : ∀ table, Always (· = []) (p.additionalArtifacts table)

/-- The participants of a pass: domain plugins, service plugins and plugins that only annotate. -/
inductive Participant (σ : Type) where
  | domain (s : DomainSettings)
  | service (s : ServiceSettings)
  | other (p : Plugin (InWorld σ)) (only : p.OnlyAnnotates)

namespace Participant

variable {σ : Type}

/-- The plugin of a participant. -/
def plugin : Participant σ → Plugin (InWorld σ)
  | domain s => .domain s
  | service s => .service s
  | other p _ => p

/-- What a participant adds for a table. -/
def extras (table : Table) : Participant σ → List Artifact
  | service s => Hooks.serviceArtifacts s table
  | _ => []

/-- The lines that a participant puts behind the annotations of the field of a column, while the
record class is put together: domain plugins those that their settings ask for, service plugins
none, and others what their hooks may answer, if they take part. -/
def AddsToField (c : Column) : Participant σ → List String → Prop
  | domain s, added => added = Record.dateLines s c
  | service _, added => added = []
  | other p _, added => added = [] ∨ ∃ f d table,
      MayAnswer (p.fieldCreated f d c table .baseRecord) (f.annotate added, true)

/-- The lines that a participant puts behind the annotations of a field when the record class is
whole: what the hooks of others may answer, if they take part, and nothing else. -/
def AddsToClass (table : Table) : Participant σ → List String → Prop
  | other p _, added => added = [] ∨ ∃ d e,
      MayAnswer (p.declarationCreated d table) (e, true) ∧ ∃ f ∈ d.fields, f.annotate added ∈ e.fields
  | _, added => added = []

/-! ## Steps of participants -/

/-- What is known of a field of a column that a participant keeps. -/
def fieldStep (c : Column) (i : Participant σ) (f g : Field) : Prop :=
  f.type = c.type → ∃ added, i.AddsToField c added ∧ g = f.annotate added

/-- What is known of a record class that a participant keeps. -/
def declarationStep (table : Table) (i : Participant σ) (d e : Declaration) : Prop :=
  match i with
  | domain s => e = d.finished s table.columns
  | service _ => e = d
  | other p _ => d.nested = [] →
      d.Annotated e ∧ MayAnswer (p.declarationCreated d table) (e, true)

/-- Domain plugins always take part, and service plugins unless they are disabled. -/
def mayAnswer : Participant σ → Bool → Prop
  | domain _, active => active = true
  | service s, active => active = !s.disable
  | other _ _, _ => True

/-- What is known of participants. -/
def behaviour (σ : Type) : Behaviour σ (Participant σ) where
  plugin := plugin
  mayAnswer := mayAnswer
  fieldStep := fieldStep
  declarationStep := declarationStep
  extras table
    | service s => (Hooks.service s).extras table
    | _ => []
  always_validate
    | domain s, warnings =>
      (Always.of_gives ((Plugin.domain_follows s).validate warnings)).mono (by rintro _ rfl; rfl)
    | service s, warnings =>
      (Always.of_gives ((Plugin.service_follows s).validate warnings)).mono (by rintro _ rfl; rfl)
    | other _ _, _ => .trivial _
  always_fieldCreated
    | domain s, f, d, c, table => by
      refine (Always.of_gives ((Plugin.domain_follows s).fieldCreated f d c table _)).mono ?_
      rintro _ rfl - typed
      exact ⟨_, rfl, Record.decorated_of_type typed⟩
    | service s, f, d, c, table => by
      refine (Always.of_gives ((Plugin.service_follows s).fieldCreated f d c table _)).mono ?_
      rintro _ rfl - -
      exact ⟨[], rfl, by simp [Field.annotate, Hooks.service]⟩
    | other p only, f, d, c, table => by
      intro journal world kept _
      obtain ⟨lines, annotated⟩ := only.fieldCreated f d c table _ journal world kept
      exact ⟨lines, .inr ⟨f, d, table, journal, world, Prod.ext annotated kept⟩, annotated⟩
  always_declarationCreated
    | domain s, d, table => by
      refine (Always.of_gives ((Plugin.domain_follows s).declarationCreated d table)).mono ?_
      rintro _ rfl -
      rfl
    | service s, d, table => by
      refine (Always.of_gives ((Plugin.service_follows s).declarationCreated d table)).mono ?_
      rintro _ rfl -
      rfl
    | other p only, d, table => by
      intro journal world kept bare
      exact ⟨only.declarationCreated d table bare journal world kept, journal, world,
        Prod.ext rfl kept⟩
  always_additionalArtifacts
    | domain s, table => .of_gives ((Plugin.domain_follows s).additionalArtifacts table)
    | service s, table => .of_gives ((Plugin.service_follows s).additionalArtifacts table)
    | other p only, table => only.additionalArtifacts table

/-! ## Fields while the class is put together -/

theorem exists_added_of_through {c : Column} {f g : Field} {active : List (Participant σ)}
    (typed : f.type = c.type) (through : Through (fieldStep c) active f g) :
    ∃ added, List.Forall₂ (AddsToField c) active added ∧ g = f.annotate added.flatten := by
  induction through with
  | done f => exact ⟨[], .nil, by simp [Field.annotate]⟩
  | step first _ ih =>
    obtain ⟨lines, adds, rfl⟩ := first typed
    obtain ⟨added, others, rfl⟩ := ih typed
    exact ⟨lines :: added, .cons adds others, by simp [Field.annotate]⟩

/-! ## The class when it is whole -/

/-- The lines that are no generator markers. -/
def unmarked (lines : List String) : List String := lines.filter (· ≠ generatorMarker)

theorem unmarked_append (lines more : List String) :
    unmarked (lines ++ more) = unmarked lines ++ unmarked more := List.filter_append ..

theorem unmarked_of_loses {n : Nat} {lines kept : List String}
    (lost : Loses generatorMarker n lines kept) : unmarked kept = unmarked lines := by
  obtain ⟨front, rest, rfl, -, rfl⟩ := lost
  rw [unmarked_append, unmarked_append, unmarked, List.filter_filter]
  simp [unmarked]

/-- Markers aside, the field has lines of others behind its annotations; its name and its type are
the same. -/
structure FieldFinished (table : Table) (is : List (Participant σ)) (f g : Field) : Prop where
  name : g.name = f.name
  type : g.type = f.type
  annotations : ∃ added, List.Forall₂ (AddsToClass table) is added ∧
    unmarked g.annotations = unmarked (f.annotations ++ added.flatten)

/-- What participants make of a record class that holds all its fields. -/
structure Finished (table : Table) (is : List (Participant σ)) (d e : Declaration) : Prop where
  name : e.name = d.name
  nested : e.nested = []
  plain : ∃ ns, e.imports = .ofNames ns
  kept : ∀ t ∈ d.imports.types, t ≠ generatedType → t ∈ e.imports.types
  dates : ∀ s, domain s ∈ is → ∀ t ∈ Record.decorationTypes s table.columns,
    t ∈ e.imports.types ∨ t.name.scope = e.name.scope
  fields : List.Forall₂ (FieldFinished table is) d.fields e.fields

theorem FieldFinished.refl (table : Table) (f : Field) :
    FieldFinished table ([] : List (Participant σ)) f f where
  name := rfl
  type := rfl
  annotations := ⟨[], .nil, by simp⟩

theorem FieldFinished.cons {table : Table} {i : Participant σ} {is : List (Participant σ)}
    {f g k : Field} (first : FieldFinished table [i] f g) (rest : FieldFinished table is g k) :
    FieldFinished table (i :: is) f k where
  name := rest.name.trans first.name
  type := rest.type.trans first.type
  annotations := by
    match first.annotations, rest.annotations with
    | ⟨[lines], .cons adds .nil, own⟩, ⟨added, others, behind⟩ =>
      refine ⟨lines :: added, .cons adds others, ?_⟩
      rw [behind, unmarked_append, own, ← unmarked_append]
      simp

theorem Finished.refl {table : Table} {d : Declaration} {ns : List QualifiedName}
    (bare : d.nested = []) (plain : d.imports = .ofNames ns) :
    Finished table ([] : List (Participant σ)) d d where
  name := rfl
  nested := bare
  plain := ⟨ns, plain⟩
  kept _ member _ := member
  dates s member := by cases member
  fields := List.forall₂_same.2 fun f _ => .refl table f

theorem forall₂_comp {α β γ : Type} {R : α → β → Prop} {S : β → γ → Prop} {T : α → γ → Prop}
    (both : ∀ a b c, R a b → S b c → T a c) {as : List α} {bs : List β} {cs : List γ}
    (first : List.Forall₂ R as bs) (rest : List.Forall₂ S bs cs) : List.Forall₂ T as cs := by
  induction first generalizing cs with
  | nil =>
    cases rest
    exact .nil
  | cons head _ ih =>
    cases rest with
    | cons next others => exact .cons (both _ _ _ head next) (ih others)

theorem Finished.cons {table : Table} {i : Participant σ} {is : List (Participant σ)}
    {d e k : Declaration} (first : Finished table [i] d e) (rest : Finished table is e k) :
    Finished table (i :: is) d k where
  name := rest.name.trans first.name
  nested := rest.nested
  plain := rest.plain
  kept t member other := rest.kept t (first.kept t member other) other
  dates s member t behind := by
    rcases List.mem_cons.1 member with rfl | later
    · rcases first.dates s List.mem_cons_self t behind with imported | near
      · left
        refine rest.kept t imported ?_
        rintro rfl
        exact (Record.decorationTypes_plain behind).2 rfl
      · right
        rw [rest.name, near]
    · exact rest.dates s later t behind
  fields := forall₂_comp (fun _ _ _ => FieldFinished.cons) first.fields rest.fields

/-- A type behind decoration is imported where it is asked for, or a neighbour. -/
theorem known_of_decorationTypes {s : DomainSettings} {columns : List Column} {t : TypeExpr}
    (behind : t ∈ Record.decorationTypes s columns) (ns : List QualifiedName)
    (scope : List Identifier) :
    t ∈ (TypeSet.ofNames (ns ++ (Record.decorationTypes s columns).flatMap
      (·.foreignNames scope))).types ∨ t.name.scope = scope := by
  by_cases near : t.name.scope = scope
  · exact .inr near
  · left
    have foreign := (Record.foreign_of_mem_decorationTypes behind scope).2 near
    have occurs : t ∈ t.occurrences := by
      cases t
      exact List.mem_cons_self
    refine TypeSet.mem_ofNames.2 ⟨t.name.element, ?_, (Record.decorationTypes_plain behind).1⟩
    rw [List.mem_append, List.mem_flatMap]
    exact .inr ⟨t, behind, TypeExpr.mem_foreignNames.2 ⟨t, occurs, foreign, rfl⟩⟩

theorem fieldsFinished_of_stripped {table : Table} {i : Participant σ}
    (silent : i.AddsToClass table []) {n : Nat} {fs gs : List Field}
    (stripped : FieldsStripped generatorMarker n fs gs) :
    List.Forall₂ (FieldFinished table [i]) fs gs := by
  have finished : ∀ f g : Field, g.name = f.name → g.type = f.type →
      Loses generatorMarker n f.annotations g.annotations → FieldFinished table [i] f g := by
    intro f g name type lost
    refine ⟨name, type, [[]], .cons silent .nil, ?_⟩
    rw [unmarked_of_loses lost]
    simp
  cases stripped with
  | none => exact .nil
  | first _ lost others =>
    refine .cons ?_ (others.imp ?_)
    · obtain ⟨kept, lines, rfl⟩ := lost
      exact finished _ _ rfl rfl lines
    · rintro f _ ⟨kept, lines, rfl⟩
      exact finished _ _ rfl rfl lines

theorem finished_of_step {table : Table} {i : Participant σ} {d e : Declaration}
    {ns : List QualifiedName} (bare : d.nested = []) (plain : d.imports = .ofNames ns)
    (step : declarationStep table i d e) : Finished table [i] d e := by
  cases i with
  | domain s =>
    have known : (d.stripMarker generatorMarker).imports =
        .ofNames (ns.filter (· ≠ generatedType.name)) := by
      rw [Declaration.stripMarker_eq, plain, TypeSet.erase_ofNames]
    have shape := Declaration.decorated_eq known s table.columns
    obtain rfl : e = _ := step.trans shape
    rw [Declaration.stripMarker_eq]
    refine ⟨rfl, ?_, ⟨_, rfl⟩, ?_, ?_, ?_⟩
    · dsimp only
      rw [bare]
      rfl
    · intro t member other
      rw [plain] at member
      obtain ⟨n, listed, rfl⟩ := TypeSet.mem_ofNames.1 member
      have distinct : n ≠ generatedType.name := fun equal => other (congrArg TypeExpr.ofName equal)
      refine TypeSet.mem_ofNames.2 ⟨n, ?_, rfl⟩
      rw [List.mem_append, List.mem_filter]
      exact .inl ⟨listed, by simpa using distinct⟩
    · intro s' member t behind
      obtain rfl : s' = s := by simpa using member
      exact known_of_decorationTypes behind _ _
    · exact fieldsFinished_of_stripped (i := domain s) rfl (fieldsStripped_once _ d.fields)
  | service s =>
    obtain rfl : e = d := step
    refine ⟨rfl, bare, ⟨ns, plain⟩, fun _ member _ => member, ?_, ?_⟩
    · intro s' member
      simp at member
    · refine List.forall₂_same.2 fun f _ => ⟨rfl, rfl, [[]], .cons rfl .nil, by simp⟩
  | other p only =>
    obtain ⟨⟨own, fields, methods, annotated, -, rfl⟩, answered⟩ := step bare
    refine ⟨rfl, bare, ⟨ns, plain⟩, fun _ member _ => member, ?_, ?_⟩
    · intro s' member
      simp at member
    · refine List.forall₂_iff_zip.2 ⟨annotated.length_eq, ?_⟩
      intro f g pair
      obtain ⟨before, after⟩ := List.of_mem_zip pair
      obtain ⟨lines, rfl⟩ := List.forall₂_zip annotated pair
      have adds : (other p only).AddsToClass table lines :=
        .inr ⟨d, _, answered, f, before, after⟩
      exact ⟨rfl, rfl, [lines], .cons adds .nil, by simp [Field.annotate]⟩

theorem finished_of_through {table : Table} {is : List (Participant σ)} {d e : Declaration}
    {ns : List QualifiedName} (bare : d.nested = []) (plain : d.imports = .ofNames ns)
    (through : Through (declarationStep table) is d e) : Finished table is d e := by
  induction through generalizing ns with
  | done d => exact .refl bare plain
  | step step _ ih =>
    have first := finished_of_step bare plain step
    obtain ⟨names, imports⟩ := first.plain
    exact first.cons (ih first.nested imports)

/-! ## Date lines and the types behind them -/

theorem third_append {front : String} {c : Char} (third : front.toList[2]? = some c)
    (rest : String) : (front ++ rest).toList[2]? = some c := by
  rw [String.toList_append]
  exact List.getElem?_append_left (List.getElem?_eq_some_iff.1 third).1 ▸ third

theorem third_dateTimeFormat (pattern : String) :
    (dateTimeFormat pattern).toList[2]? = some 'a' :=
  third_append (third_append (by decide) _) _

theorem third_annotationLine {library : JsonLibrary} {pattern line : String}
    (written : library.annotationLine? pattern = some line) :
    (library = .fastjson ∧ line.toList[2]? = some 'S') ∨
      (library = .jackson ∧ line.toList[2]? = some 's') := by
  cases library with
  | none => cases written
  | fastjson =>
    rw [JsonLibrary.annotationLine?, Option.some.injEq] at written
    exact .inl ⟨rfl, written ▸ third_append (third_append (by decide) _) _⟩
  | jackson =>
    rw [JsonLibrary.annotationLine?, Option.some.injEq] at written
    exact .inr ⟨rfl, written ▸ third_append (third_append (by decide) _) _⟩

theorem exists_pattern_of_mem_dateLines {s : DomainSettings} {c : Column} {line : String}
    (member : line ∈ Record.dateLines s c) :
    s.dateSerialize = true ∧ c.meaning.isTemporal = true ∧
      ∃ pattern, s.json.annotationLine? pattern = some line ∨ line = dateTimeFormat pattern := by
  unfold Record.dateLines at member
  split at member
  · rename_i asked kind
    refine ⟨asked, by rw [kind]; rfl, "yyyy-MM-dd", ?_⟩
    simpa [Field.dateAnnotations] using member
  · rename_i asked kind
    refine ⟨asked, by rw [kind]; rfl, "yyyy-MM-dd HH:mm:ss", ?_⟩
    simpa [Field.dateAnnotations] using member
  · cases member

theorem third_of_mem_dateLines {s : DomainSettings} {c : Column} {line : String}
    (member : line ∈ Record.dateLines s c) : line.toList[2]? ≠ some 'e' := by
  obtain ⟨-, -, pattern, written | rfl⟩ := exists_pattern_of_mem_dateLines member
  · rcases third_annotationLine written with ⟨-, third⟩ | ⟨-, third⟩ <;> simp [third]
  · simp [third_dateTimeFormat]

theorem exists_annotates {s : DomainSettings} {c : Column} {line : String}
    (member : line ∈ Record.dateLines s c) : ∃ t, Annotates line t := by
  obtain ⟨-, -, pattern, written | rfl⟩ := exists_pattern_of_mem_dateLines member
  · rcases third_annotationLine written with ⟨library, -⟩ | ⟨library, -⟩
    · rw [library] at written
      exact ⟨_, .library (by rfl) written⟩
    · rw [library] at written
      exact ⟨_, .library (by rfl) written⟩
  · exact ⟨_, .dateTimeFormat pattern⟩

/-- Whatever type is behind a date line of a column, the class of the table asks for it. -/
theorem mem_decorationTypes_of_annotates {s : DomainSettings} {columns : List Column} {c : Column}
    {line : String} {t : TypeExpr} (among : c ∈ columns) (member : line ∈ Record.dateLines s c)
    (behind : Annotates line t) : t ∈ Record.decorationTypes s columns := by
  obtain ⟨asked, temporal, pattern, line'⟩ := exists_pattern_of_mem_dateLines member
  have dates : s.importsDates columns = true := by
    rw [DomainSettings.importsDates, asked, Bool.true_and, List.any_eq_true]
    exact ⟨c, among, temporal⟩
  refine Record.mem_decorationTypes.2 (.inr ⟨dates, ?_⟩)
  cases behind with
  | service => exact absurd (by decide) (third_of_mem_dateLines member)
  | dateTimeFormat => exact .inr rfl
  | @library library other _ n named written =>
    -- The lines of the two libraries differ in their third letter, and both from the other line.
    refine .inl ⟨n, ?_, rfl⟩
    have third := third_annotationLine written
    rcases line' with own | rfl
    · have mine := third_annotationLine own
      obtain rfl : library = s.json := by
        rcases third with ⟨rfl, letter⟩ | ⟨rfl, letter⟩ <;>
          rcases mine with ⟨rfl', letter'⟩ | ⟨rfl', letter'⟩ <;> simp_all
      exact named
    · rw [third_dateTimeFormat] at third
      simp at third

/-! ## Passes -/

theorem exists_added_of_takesPart {adds : Participant σ → List String → Prop}
    (silent : ∀ i, mayAnswer i false → adds i []) {is active : List (Participant σ)}
    {added : List (List String)} (taking : TakesPart mayAnswer is active)
    (each : List.Forall₂ adds active added) :
    ∃ all, List.Forall₂ adds is all ∧ all.flatten = added.flatten := by
  induction taking generalizing added with
  | nil => exact ⟨added, each, rfl⟩
  | takes _ _ ih =>
    cases each with
    | cons own others =>
      obtain ⟨all, each, same⟩ := ih others
      exact ⟨_ :: all, .cons own each, by rw [List.flatten_cons, List.flatten_cons, same]⟩
  | rests no _ ih =>
    obtain ⟨all, each, same⟩ := ih each
    exact ⟨[] :: all, .cons (silent _ no) each, same⟩

/-- A participant that rests adds nothing, and no domain plugin rests. -/
theorem addsToField_of_rests (c : Column) (i : Participant σ) (no : mayAnswer i false) :
    i.AddsToField c [] := by
  cases i with
  | domain s => cases no
  | service s => rfl
  | other p only => exact .inl rfl

theorem addsToClass_of_rests (table : Table) (i : Participant σ) : i.AddsToClass table [] := by
  cases i with
  | domain s => rfl
  | service s => rfl
  | other p only => exact .inl rfl

theorem domain_mem_of_takesPart {is active : List (Participant σ)} {s : DomainSettings}
    (taking : TakesPart mayAnswer is active) (member : domain s ∈ is) : domain s ∈ active := by
  induction taking with
  | nil => cases member
  | takes _ _ ih =>
    rcases List.mem_cons.1 member with rfl | later
    · exact List.mem_cons_self
    · exact List.mem_cons_of_mem _ (ih later)
  | rests no _ ih =>
    rcases List.mem_cons.1 member with rfl | later
    · cases no
    · exact ih later

theorem extras_of_takesPart {is active : List (Participant σ)} (table : Table)
    (taking : TakesPart mayAnswer is active) :
    active.flatMap ((behaviour σ).extras table) = is.flatMap (extras table) := by
  induction taking with
  | nil => rfl
  | @takes i _ _ yes _ ih =>
    have own : (behaviour σ).extras table i = extras table i := by
      cases i with
      | service s =>
        have enabled : s.disable = false := by simpa [mayAnswer] using yes
        simp only [behaviour, extras, Hooks.service, Hooks.serviceArtifacts, enabled]
        cases s.targetProject <;> rfl
      | _ => rfl
    rw [List.flatMap_cons, List.flatMap_cons, own, ih]
  | @rests i _ _ no _ ih =>
    have own : extras table i = [] := by
      cases i with
      | service s =>
        have disabled : s.disable = true := by simpa [mayAnswer] using no
        simp only [extras, Hooks.serviceArtifacts, disabled]
      | _ => rfl
    rw [List.flatMap_cons, own, ih]
    rfl

end Participant

/-- There is a type behind the annotation line, and any such is imported or a neighbour. -/
def Declaration.Knows (d : Declaration) (line : String) : Prop :=
  (∃ t, Annotates line t) ∧
    ∀ t, Annotates line t → t ∈ d.imports.types ∨ t.name.scope = d.name.scope

namespace Participant

variable {σ : Type}

/-- The field of a column in a record class, as participants leave it. Generator markers aside, the
annotations are those that each added while the class was put together, in the order of
registration, and then what others added to the class when it was whole; of domain plugins that is
what their settings ask for in the column. The class knows every date line among them. -/
structure FieldAgrees (table : Table) (is : List (Participant σ)) (d : Declaration) (c : Column)
    (f : Field) : Prop where
  name : f.name = c.property
  type : f.type = c.type
  annotations : ∃ added later,
    List.Forall₂ (AddsToField c) is added ∧ List.Forall₂ (AddsToClass table) is later ∧
    unmarked f.annotations = unmarked (added.flatten ++ later.flatten)
  known : ∀ s, domain s ∈ is → ∀ line ∈ Record.dateLines s c,
    line ∈ f.annotations ∧ d.Knows line

theorem mem_flatten_of_adds {c : Column} {is : List (Participant σ)} {added : List (List String)}
    {s : DomainSettings} {line : String} (member : domain s ∈ is)
    (adds : List.Forall₂ (AddsToField c) is added) (among : line ∈ Record.dateLines s c) :
    line ∈ added.flatten := by
  induction adds with
  | nil => cases member
  | cons own _ ih =>
    rw [List.flatten_cons, List.mem_append]
    rcases List.mem_cons.1 member with rfl | later
    · obtain rfl := own
      exact .inl among
    · exact .inr (ih later)

theorem fieldAgrees_of_finished {is active : List (Participant σ)} {table : Table}
    {d e : Declaration} {c : Column} {f g : Field} (taking : TakesPart mayAnswer is active)
    (among : c ∈ table.columns) (through : Through (fieldStep c) active (Record.field c) f)
    (whole : Finished table active d e) (finished : FieldFinished table active f g) :
    FieldAgrees table is e c g := by
  obtain ⟨made, adds, rfl⟩ := exists_added_of_through rfl through
  obtain ⟨behind, late, lines⟩ := finished.annotations
  obtain ⟨added, adds, same⟩ := exists_added_of_takesPart (addsToField_of_rests c) taking adds
  obtain ⟨later, late, same'⟩ :=
    exists_added_of_takesPart (fun i _ => addsToClass_of_rests table i) taking late
  have annotations : unmarked g.annotations = unmarked (added.flatten ++ later.flatten) := by
    rw [lines, same, same', Field.annotate, Record.field]
    simp [unmarked]
  refine ⟨finished.name, finished.type, ⟨added, later, adds, late, annotations⟩, ?_⟩
  intro s member line asked
  refine ⟨?_, exists_annotates asked, ?_⟩
  · have kept : line ∈ unmarked g.annotations := by
      have other : line ≠ generatorMarker := by
        rintro rfl
        exact third_of_mem_dateLines asked (by decide)
      rw [annotations, unmarked, List.mem_filter, List.mem_append]
      exact ⟨.inl (mem_flatten_of_adds member adds asked), by simpa using other⟩
    exact (List.mem_filter.1 kept).1
  · intro t type
    exact whole.dates s (domain_mem_of_takesPart taking member) t
      (mem_decorationTypes_of_annotates among asked type)

/-- Whatever the world is, a pass of any participants makes record classes for some of its tables,
in order, and puts behind them what the service plugins add. The fields of a record class are those
of some columns of its table, in order; in each, the annotations of dates are what the domain
plugins are asked for, and the class knows the types behind them. -/
theorem run_annotationsAgree (participants : List (Participant σ)) (recordProject : String)
    (tables : List Table) (journal : Journal) (world : σ) :
    let pass : Pass (InWorld σ) := { plugins := participants.map plugin, recordProject }
    ∃ output journal' world',
      ((pass.run tables).run journal).run world = ((output, journal'), world') ∧
      ∃ records : List (Table × Declaration), (records.map Prod.fst).Sublist tables ∧
        output.artifacts =
          (records.map fun r => { declaration := r.2, targetProject := recordProject }) ++
            tables.flatMap (fun table => participants.flatMap (extras table)) ∧
        ∀ r ∈ records, r.2.name = r.1.recordType.name ∧
          ∃ kept : List Column, kept.Sublist r.1.columns ∧
            List.Forall₂ (FieldAgrees r.1 participants r.2) kept r.2.fields := by
  intro pass
  obtain ⟨active, taking, records, among, built, artifacts⟩ :=
    (behaviour σ).always_run participants recordProject tables journal world
  rcases result : ((pass.run tables).run journal).run world with ⟨⟨output, journal'⟩, world'⟩
  have same : (((pass.run tables).run journal).run world).1.1 = output := by rw [result]
  refine ⟨output, journal', world', rfl, records, among, ?_, ?_⟩
  · rw [← same]
    refine artifacts.trans ?_
    simp only [extras_of_takesPart _ taking]
    rfl
  · intro r member
    obtain ⟨kept, columns, fields, through⟩ := built r member
    have finished : Finished r.1 active _ r.2 := finished_of_through rfl rfl through
    refine ⟨finished.name, kept.map Prod.fst, columns, ?_⟩
    rw [List.forall₂_map_left_iff]
    have whole := finished.fields
    rw [Record.holding, List.forall₂_map_left_iff] at whole
    have each : ∀ k ∈ kept, k.1 ∈ r.1.columns ∧
        Through (fieldStep k.1) active (Record.field k.1) k.2 := fun k inside =>
      ⟨columns.subset (List.mem_map_of_mem inside), fields k inside⟩
    refine ((List.forall₂_and_left _ _).2 ⟨each, whole⟩).imp ?_
    rintro k f ⟨⟨inside, made⟩, left⟩
    exact fieldAgrees_of_finished taking inside made finished left

/-- Two domain plugins, each for its own library, and between them one that keeps and annotates
every second field that it is shown. -/
theorem run_annotationsAgree_audited :
    let date : TypeExpr :=
      .ofName { scope := [⟨"java", by decide⟩, ⟨"time", by decide⟩],
                simple := ⟨"LocalDate", by decide⟩ }
    let table : Table :=
      { name := "PERSON"
        recordType := .ofName { scope := [⟨"model", by decide⟩], simple := ⟨"Person", by decide⟩ }
        columns := [{ name := "BORN", property := "born", type := date },
          { name := "DIED", property := "died", type := date }] }
    let audit : Plugin (InWorld Nat) :=
      { Plugin.inert "audit" with
        fieldCreated := fun f _ _ _ _ journal shown =>
          (((f.annotate ["@Audited"], shown % 2 == 0), journal), shown + 1) }
    let fastjson : DomainSettings := { dateSerialize := true, json := .fastjson }
    let jackson : DomainSettings := { dateSerialize := true, json := .jackson }
    ∃ only : audit.OnlyAnnotates, ∃ d f,
      let pass : Pass (InWorld Nat) :=
        { plugins := [domain fastjson, other audit only, domain jackson].map plugin }
      (((pass.run [table]).run []).run 0).1.1.artifacts =
          [{ declaration := d, targetProject := pass.recordProject }] ∧ d.fields = [f] ∧
        ∀ line ∈ ["@JSONField(pattern=\"yyyy-MM-dd\")", "@JsonFormat(pattern=\"yyyy-MM-dd\")"],
          line ∈ f.annotations ∧ d.Knows line := by
  intro date table audit fastjson jackson
  have same : ∀ d : Declaration, d.Annotated d := fun d =>
    ⟨[], d.fields, d.methods, List.forall₂_same.2 fun f _ => ⟨[], by simp [Field.annotate]⟩,
      List.forall₂_same.2 fun m _ => ⟨[], by simp [Method.annotate]⟩, by cases d; simp⟩
  have only : audit.OnlyAnnotates :=
    { fieldCreated := fun f _ _ _ _ _ _ _ => ⟨["@Audited"], rfl⟩
      declarationCreated := fun d _ _ _ _ _ => same d
      additionalArtifacts := fun _ => .pure rfl }
  obtain ⟨output, journal, world, run, records, among, artifacts, agree⟩ := run_annotationsAgree
    [domain fastjson, other audit only, domain jackson] defaultRecordProject [table] [] 0
  replace artifacts := artifacts.trans (List.append_nil _)
  have made : output.artifacts.map (·.declaration.fields.length) = [1] :=
    (congrArg (fun r => r.1.1.artifacts.map (·.declaration.fields.length)) run).symm.trans rfl
  rw [artifacts, List.map_map] at made
  obtain ⟨⟨t, d⟩, rfl, single⟩ := List.map_eq_singleton_iff.1 made
  obtain ⟨f, fields⟩ := List.length_eq_one_iff.1 single
  obtain ⟨-, kept, columns, agrees⟩ := agree (t, d) List.mem_cons_self
  obtain rfl : t = table := List.mem_singleton.1 (among.subset List.mem_cons_self)
  rw [fields] at agrees
  match kept, agrees with
  | [c], .cons agrees .nil =>
    have dated : c.meaning = .date := by
      rcases List.mem_pair.1 (columns.subset List.mem_cons_self) with rfl | rfl <;> rfl
    refine ⟨only, d, f, (congrArg (fun r => r.1.1.artifacts) run).trans artifacts, fields, ?_⟩
    intro line member
    rcases List.mem_pair.1 member with rfl | rfl
    · refine agrees.known fastjson List.mem_cons_self _ ?_
      rw [Record.dateLines, dated]
      exact List.mem_cons_self
    · refine agrees.known jackson (List.mem_cons_of_mem _ (by simp)) _ ?_
      rw [Record.dateLines, dated]
      exact List.mem_cons_self

end Participant

end RecordSynth
