import RecordSynth.Proofs.Pass.BuiltIn
import RecordSynth.Proofs.Pass.Protocol
import RecordSynth.Proofs.Pass.Steps
/-!
# Fields that are refused

A column whose field some plugin refuses leaves nothing behind in the record class: no field, no
accessors, no import. If plugins decide by the field and its column alone, the class that the first
of them sees whole is the class of the table without the columns that were refused, whoever refused
them and whatever others had made of their fields before.
-/

namespace RecordSynth

/-- What a plugin makes of the field of a column, unless it refuses it. -/
abbrev FieldEdit := Field → Column → Option Field

namespace FieldEdit

/-- What edits make of a field one after the other, up to the first that refuses it. -/
def through (edits : List FieldEdit) (c : Column) (f : Field) : Option Field :=
  edits.foldlM (fun f edit => edit f c) f

/-- The field of a column as it is kept, with its column, unless some edit refuses it. -/
def kept? (edits : List FieldEdit) (c : Column) : Option (Column × Field) :=
  (through edits c (Record.field c)).map (c, ·)

/-- The table without the columns that some edit refuses. -/
def trimmed (edits : List FieldEdit) (table : Table) : Table :=
  { table with columns := table.columns.filter fun c => (kept? edits c).isSome }

theorem kept?_eq_some_iff {edits : List FieldEdit} {c : Column} {k : Column × Field} :
    kept? edits c = some k ↔ k.1 = c ∧ through edits c (Record.field c) = some k.2 := by
  obtain ⟨d, f⟩ := k
  simp only [kept?, Option.map_eq_some_iff, Prod.mk.injEq]
  constructor
  · rintro ⟨g, made, rfl, rfl⟩
    exact ⟨rfl, made⟩
  · rintro ⟨rfl, made⟩
    exact ⟨f, made, rfl, rfl⟩

/-- What is kept are the columns of the trimmed table. -/
theorem map_filterMap_kept? (edits : List FieldEdit) (table : Table) :
    (table.columns.filterMap (kept? edits)).map (·.1) = (trimmed edits table).columns := by
  rw [List.map_filterMap, trimmed, ← List.filterMap_eq_filter]
  refine List.filterMap_congr ?_
  intro c _
  cases kept : kept? edits c with
  | none => simp [Option.guard, kept]
  | some k => simp [Option.guard, kept, (kept?_eq_some_iff.1 kept).1]

theorem filterMap_kept?_trimmed (edits : List FieldEdit) (table : Table) :
    (trimmed edits table).columns.filterMap (kept? edits) = table.columns.filterMap (kept? edits) := by
  rw [trimmed, List.filterMap_filter]
  refine List.filterMap_congr ?_
  intro c _
  cases kept? edits c <;> rfl

end FieldEdit

/-- The field hook of the plugin answers by the field and its column alone, whatever record class
and table it is shown and whatever the world is. -/
def Plugin.Edits {σ : Type} (p : Plugin (InWorld σ)) (edit : FieldEdit) : Prop :=
  ∀ f d c table kind, Always (fun made => edit f c = if made.2 then some made.1 else none)
    (p.fieldCreated f d c table kind)

namespace Pass

variable {σ : Type} {active : List (Plugin (InWorld σ))} {edits : List FieldEdit}

/-! ## The loop over columns -/

theorem always_askField (alone : List.Forall₂ Plugin.Edits active edits) (d : Declaration)
    (c : Column) (table : Table) (f : Field) :
    Always (fun made => FieldEdit.through edits c f = if made.2 then some made.1 else none)
      (askField d c table active f) := by
  induction alone generalizing f with
  | nil => exact .pure rfl
  | @cons p edit ps edits head _ ih =>
    refine .bind (head f d c table .baseRecord) ?_
    rintro ⟨g, kept⟩ made
    cases kept with
    | false =>
      refine .pure ?_
      rw [FieldEdit.through, List.foldlM_cons, made]
      rfl
    | true =>
      refine (ih g).mono ?_
      rintro answer rest
      rw [FieldEdit.through, List.foldlM_cons, made]
      exact rest

/-- The record class gets the property of each column that is kept, in order, and nothing else. -/
theorem always_buildFields (alone : List.Forall₂ Plugin.Edits active edits) (table : Table)
    (columns : List Column) (soFar : List (Column × Field)) :
    Always (· = Record.holding table (soFar ++ columns.filterMap (FieldEdit.kept? edits)))
      (buildFields active table columns (Record.holding table soFar)) := by
  induction columns generalizing soFar with
  | nil => exact .pure (by simp)
  | cons c columns ih =>
    refine .bind (always_askField alone _ c table (Record.field c)) ?_
    rintro ⟨f, answer⟩ made
    cases answer with
    | false =>
      have refused : FieldEdit.kept? edits c = none := congrArg _ made
      refine .bind (.trivial _) fun _ _ => ?_
      rw [List.filterMap_cons_none refused]
      exact ih soFar
    | true =>
      have kept : FieldEdit.kept? edits c = some (c, f) := congrArg _ made
      dsimp only
      rw [Record.addProperty_holding, List.filterMap_cons_some kept, List.append_cons]
      exact ih (soFar ++ [(c, f)])

end Pass

/-! ## What the hooks are given -/

/-- A run with a record of its calls answers as one without, so what always holds of the one holds of
the other too. -/
theorem Records.also {σ α β : Type} {x : InWorld σ α} {y : StateT (List HookCall) (InWorld σ) β}
    {P : α → β → List HookCall → Prop} {Q : α → Prop} (given : Records x y P) (always : Always Q x) :
    Records x y fun a b calls => P a b calls ∧ Q a := by
  obtain ⟨z, rfl, recorded⟩ := given
  let known : InWorld σ (Traced fun a b calls => P a b calls ∧ Q a) := fun journal world =>
    let made := z journal world
    ((⟨made.1.1.plain, made.1.1.recorded, made.1.1.calls, made.1.1.holds, always journal world⟩,
      made.1.2), made.2)
  exact ⟨known, rfl, recorded⟩

/-- The record class that the hook was given, if it is asked about a whole one. -/
def HookCall.givenRecord? : HookCall → Option Declaration
  | .declarationCreated _ _ given _ _ => some given
  | _ => none

theorem Asked.givenRecord?_of_field {d : Declaration} {c : Column} {table : Table}
    {ps : List Nat} {f g : Field} {calls : List HookCall} {answer : Bool}
    (asked : Asked (.fieldCreated d c table .baseRecord) ps f calls g answer) :
    calls.findSome? (·.givenRecord?) = none := by
  induction asked with
  | done f => rfl
  | kept _ ih => exact ih
  | refused p ps f g => rfl

theorem ColumnsTaken.givenRecord? {ps : List Nat} {table : Table}
    {soFar final : List (Column × Field)} {columns : List Column} {calls : List HookCall}
    (taken : ColumnsTaken ps table soFar columns calls final) :
    calls.findSome? (·.givenRecord?) = none := by
  induction taken with
  | done kept => rfl
  | kept asked _ ih => rw [List.findSome?_append, asked.givenRecord?_of_field, ih]; rfl
  | dropped asked _ ih => rw [List.findSome?_append, asked.givenRecord?_of_field, ih]; rfl

/-- The first hook that is asked about a whole record class is given the one that they start
with. -/
theorem Asked.givenRecord?_of_record {table : Table} {ps : List Nat} {d e : Declaration}
    {calls : List HookCall} {answer : Bool}
    (asked : Asked (.declarationCreated table) ps d calls e answer) :
    calls.findSome? (·.givenRecord?) = ps.head?.map fun _ => d := by
  cases asked with
  | done d => rfl
  | kept _ => rfl
  | refused p ps d e => rfl

namespace Pass

variable {σ : Type}

/-- The calls of hooks while the record class of a table is made. -/
def recordCalls (active : List (Plugin (InWorld σ))) (table : Table) (journal : Journal) (world : σ) :
    List HookCall :=
  ((((buildRecord (recording (placed active)) table).run []).run journal).run world).1.1.2

/-- The record class that the first hook asked about a whole one is given, if any hook is. -/
def firstGiven? (active : List (Plugin (InWorld σ))) (table : Table) (journal : Journal)
    (world : σ) : Option Declaration :=
  (recordCalls active table journal world).findSome? (·.givenRecord?)

theorem records_givenRecord (ps : List (Nat × Plugin (InWorld σ))) {table : Table} {d : Declaration}
    (built : Always (· = d)
      (buildFields (plainly ps) table table.columns (Record.empty table))) :
    Records (buildRecord (plainly ps) table) (buildRecord (recording ps) table)
      fun _ _ calls => calls.findSome? (·.givenRecord?) = (places ps).head?.map fun _ => d := by
  have start : Record.empty table = Record.holding table [] := Record.withProperties_eq table []
  unfold buildRecord
  rw [start] at built ⊢
  refine .bind ((records_buildFields ps table table.columns []).also built) ?_
  rintro whole _ fieldCalls ⟨⟨rfl, kept, -, taken⟩, rfl⟩
  refine .bind (records_askDeclaration ps table whole) ?_
  rintro ⟨e, answer⟩ _ declarationCalls ⟨rfl, asked⟩
  have first : (fieldCalls ++ declarationCalls).findSome? (·.givenRecord?) =
      (places ps).head?.map fun _ => whole := by
    rw [List.findSome?_append, taken.givenRecord?, Option.none_or]
    exact asked.givenRecord?_of_record
  cases answer with
  | false =>
    refine .bind (.note _ _) ?_
    rintro _ _ _ rfl
    exact .pure (by simpa using first)
  | true => exact .pure (by simpa using first)

theorem firstGiven?_of_always {active : List (Plugin (InWorld σ))} {table : Table} {d : Declaration}
    (built : Always (· = d) (buildFields active table table.columns (Record.empty table)))
    (journal : Journal) (world : σ) :
    firstGiven? active table journal world = active.head?.map fun _ => d := by
  rw [← plainly_placed active] at built
  obtain ⟨z, -, recorded⟩ := records_givenRecord (placed active) built
  have known := ((z.run journal).run world).1.1.holds
  have heads : (places (placed active)).head?.map (fun _ => d) = active.head?.map fun _ => d := by
    cases active with
    | nil => rfl
    | cons p ps => simp [placed]
  rw [firstGiven?, recordCalls, recorded [], StateT.run_map, StateT.run_map, ← heads]
  exact known

/-- A field that is refused leaves no trace. If the plugins answer about fields by the field and its
column alone, the first hook that is asked about the whole record class is given the class of the
table without the columns that some plugin refuses, down to the order of its imports: it holds a field
for each column that is left, as the plugins made it, with its accessors and imports. That is so
whatever the journal and the world were, and whatever else the hooks do. -/
theorem rejected_fields_leave_no_trace {active : List (Plugin (InWorld σ))} {edits : List FieldEdit}
    (alone : List.Forall₂ Plugin.Edits active edits) (table : Table) :
    (∀ journal world journal' world', firstGiven? active table journal world =
      firstGiven? active (FieldEdit.trimmed edits table) journal' world') ∧
    ∃ kept : List (Column × Field), kept.map (·.1) = (FieldEdit.trimmed edits table).columns ∧
      (∀ k ∈ kept, FieldEdit.through edits k.1 (Record.field k.1) = some k.2) ∧
      ∀ journal world, firstGiven? active table journal world =
        active.head?.map fun _ => Record.holding table kept := by
  have given : ∀ (t : Table) (journal : Journal) (world : σ), firstGiven? active t journal world =
      active.head?.map fun _ => Record.holding t (t.columns.filterMap (FieldEdit.kept? edits)) := by
    intro t
    refine firstGiven?_of_always ?_
    have built := always_buildFields alone t t.columns []
    rwa [← Record.withProperties_eq t []] at built
  refine ⟨?_, table.columns.filterMap (FieldEdit.kept? edits), ?_, ?_, given table⟩
  · intro journal world journal' world'
    -- Of the table itself a record class has the name alone, which both tables share.
    rw [given, given, FieldEdit.filterMap_kept?_trimmed]
    rfl
  · exact FieldEdit.map_filterMap_kept? edits table
  · intro k member
    obtain ⟨c, -, kept⟩ := List.mem_filterMap.1 member
    obtain ⟨rfl, made⟩ := FieldEdit.kept?_eq_some_iff.1 kept
    exact made

/-- A plugin that counts the fields it is asked about keeps one that was decorated before out of a
record class; the type that both columns share is imported for the other. -/
theorem rejected_fields_leave_no_trace_secret :
    let date : TypeExpr := .ofName {
      scope := [.javaSegment, ⟨"time", by decide⟩], simple := ⟨"LocalDate", by decide⟩ }
    let born : Column := { name := "BORN", property := "born", type := date }
    let secret : Column := { name := "SECRET", property := "secret", type := date }
    let table : Table :=
      { name := "PERSON"
        recordType := .ofName { scope := [⟨"a", by decide⟩], simple := ⟨"Person", by decide⟩ }
        columns := [secret, born] }
    let veto : Plugin (InWorld Nat) :=
      { Plugin.inert "veto" with
        fieldCreated := fun f _ c _ _ => do
          StateT.lift (modify (· + 1))
          return (f, c.name != "SECRET") }
    let active := [Plugin.domain { dateSerialize := true }, veto]
    firstGiven? active table [] 0 = firstGiven? active { table with columns := [born] } [] 5 ∧
      (firstGiven? active table [] 0).map (fun d =>
        (d.fields.map (·.name), d.imports.types.map (·.name.text))) =
        some (["born"], ["javax.annotation.Generated", "java.time.LocalDate"]) := by
  intro date born secret table veto active
  let edits : List FieldEdit :=
    [fun f _ => some (f.decorated { dateSerialize := true }),
      fun f c => if c.name != "SECRET" then some f else none]
  have alone : List.Forall₂ Plugin.Edits active edits := by
    refine .cons ?_ (.cons ?_ .nil)
    · intro f d c t kind
      refine (Always.of_gives ((Plugin.domain_follows _).fieldCreated f d c t kind)).mono ?_
      rintro _ rfl
      rfl
    · intro f d c t kind
      exact .bind (.trivial _) fun _ _ => .pure rfl
  have left : FieldEdit.trimmed edits table = { table with columns := [born] } := by decide
  refine ⟨?_, by decide⟩
  rw [← left]
  exact (rejected_fields_leave_no_trace alone table).1 [] 0 [] 5

end Pass

end RecordSynth
