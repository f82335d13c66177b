import RecordSynth.Proofs.Declaration.Edits
import RecordSynth.Proofs.Pass.Annotations
import RecordSynth.Proofs.Pass.Records
/-!
# Patches in either order

Removing a marker touches annotations, one import and the end of a comment. Other patches touch
other lines of the same tree, and so they commute with it, and it does with itself: the tree is the
same in every part, and imports stand in the same order. So a record class may be cleaned before its
fields are decorated or after that, which is what a pass does: `Declaration.patches_commute`.
-/

namespace RecordSynth

open Function (Commute)

/-! ## Members -/

theorem commute_map_modify {α : Type} {f g : α → α} (commute : Commute f g) (i : Nat)
    (as : List α) : (as.modify i g).map f = (as.map f).modify i g := by
  refine List.ext_getElem? ?_
  intro j
  rw [List.getElem?_map, List.getElem?_modify, List.getElem?_modify, List.getElem?_map]
  cases as[j]? with
  | none => rfl
  | some a =>
    by_cases here : i = j
    · simp [here, commute a]
    · simp [here]

theorem commute_map_map {α : Type} {f g : α → α} (commute : Commute f g) (as : List α) :
    (as.map g).map f = (as.map f).map g := by
  rw [List.map_map, List.map_map, commute.comp_eq]

namespace Field

theorem commute_dropMarker (marker marker' : String) :
    Commute (dropMarker marker) (dropMarker marker') := by
  intro f
  simp only [dropMarker, List.erase_comm marker marker']

/-- Decoration puts lines behind the annotations, none of which is the one on generated members;
the lines depend on the type of the field alone. -/
theorem exists_decorated_eq_annotate (s : DomainSettings) (t : TypeExpr) :
    ∃ lines, generatorMarker ∉ lines ∧
      ∀ f : Field, f.type = t → f.decorated s = f.annotate lines := by
  let c : Column := { name := "", property := "", type := t }
  refine ⟨Record.dateLines s c, ?_, fun f typed => Record.decorated_of_type typed⟩
  intro member
  exact Participant.third_of_mem_dateLines member (by decide)

theorem commute_dropMarker_decorated (s : DomainSettings) :
    Commute (dropMarker generatorMarker) (decorated s) := by
  intro f
  obtain ⟨lines, other, decorated⟩ := exists_decorated_eq_annotate s f.type
  have erased : (f.annotations ++ lines).erase generatorMarker =
      f.annotations.erase generatorMarker ++ lines := by
    by_cases marked : generatorMarker ∈ f.annotations
    · rw [List.erase_append_left _ marked]
    · rw [List.erase_append_right _ marked, List.erase_of_not_mem other,
        List.erase_of_not_mem marked]
  rw [decorated f rfl, decorated (f.dropMarker generatorMarker) rfl]
  simp only [annotate, dropMarker, erased]

theorem commute_closeDoc_decorated (s : DomainSettings) : Commute closeDoc (decorated s) := by
  intro f
  obtain ⟨lines, -, decorated⟩ := exists_decorated_eq_annotate s f.type
  have typed : f.closeDoc.type = f.type := by rw [closeDoc_eq]
  rw [decorated f rfl, decorated f.closeDoc typed]
  unfold closeDoc annotate
  split <;> rfl

end Field

theorem Method.commute_dropMarker (marker marker' : String) :
    Commute (Method.dropMarker marker) (Method.dropMarker marker') := by
  intro m
  simp only [Method.dropMarker, List.erase_comm marker marker']

theorem closeFirstDoc_modify {g : Field → Field} (commute : Commute Field.closeDoc g) (i : Nat)
    (fs : List Field) : closeFirstDoc (fs.modify i g) = (closeFirstDoc fs).modify i g := by
  cases fs with
  | nil => simp [closeFirstDoc]
  | cons f fs =>
    cases i with
    | zero => simp [closeFirstDoc, commute f]
    | succ i => simp [closeFirstDoc]

/-! ## Imports -/

/-- No import of decoration is the one behind generator markers. -/
theorem Record.text_ne_of_mem_importsFrom {s : DomainSettings} {columns : List Column}
    {scope : List Identifier} {t : TypeExpr}
    (member : t ∈ (decorationTypes s columns).flatMap (·.importsFrom scope)) :
    t.name.text ≠ generatedType.name.text := by
  rw [importsFrom_decorationTypes, List.mem_filter] at member
  exact fun texts => (decorationTypes_plain member.1).2 (QualifiedName.text_injective texts)

namespace Declaration

/-! ## Trees -/

/-- Decoration adds a super-interface and imports, and changes nothing else. -/
theorem decorated_eq_foldl (s : DomainSettings) (columns : List Column) (d : Declaration) :
    d.decorated s columns =
      { d with
        superInterfaces := if s.serializable then
          d.superInterfaces.insert serializableType.unqualified else d.superInterfaces
        imports := ((Record.decorationTypes s columns).flatMap
          (·.importsFrom d.name.scope)).foldl TypeSet.insert d.imports } := by
  obtain ⟨name, kind, visibility, superType, _, _, fields, methods, annotations, nested⟩ := d
  unfold decorated markSerializable importDates Record.decorationTypes
  cases s.serializable <;> cases s.importsDates columns <;> cases s.json.annotationName? <;>
    simp [addImport, addSuperInterface, List.foldl_append]

theorem commute_stripMarker_decorated (marker : String) (s : DomainSettings)
    (columns : List Column) : Commute (stripMarker marker) (decorated s columns) := by
  intro d
  have others : ∀ t ∈ (Record.decorationTypes s columns).flatMap (·.importsFrom d.name.scope),
      t.name.text ≠ generatedType.name.text := fun t => Record.text_ne_of_mem_importsFrom
  have kept := TypeSet.erase_foldl_insert others d.imports
  rw [decorated_eq_foldl, decorated_eq_foldl, stripMarker_eq, stripMarker_eq]
  simp only [kept]

theorem commute_stripMarker_dropMarker (marker marker' : String) :
    Commute (stripMarker marker) (dropMarker marker') := by
  intro d
  rw [stripMarker_eq, stripMarker_eq]
  rfl

theorem commute_dropMarker (marker marker' : String) :
    Commute (dropMarker marker) (dropMarker marker') := by
  intro d
  simp only [dropMarker, List.erase_comm marker marker']

/-- Two markers may be removed in either order, or one marker twice. -/
theorem commute_stripMarker (marker marker' : String) :
    Commute (stripMarker marker) (stripMarker marker') := by
  intro d
  have inner : ∀ n ∈ d.nested,
      ((((n.stripMarker marker').dropMarker marker').stripMarker marker).dropMarker marker) =
        ((((n.stripMarker marker).dropMarker marker).stripMarker marker').dropMarker marker') := by
    intro n member
    have smaller := sizeOf_lt_of_mem_nested member
    have stripped := commute_stripMarker marker marker' n
    rw [commute_stripMarker_dropMarker, commute_stripMarker_dropMarker, stripped,
      commute_dropMarker]
  have nested : stripMarkerAll marker (stripMarkerAll marker' d.nested) =
      stripMarkerAll marker' (stripMarkerAll marker d.nested) := by
    simp only [stripMarkerAll_eq_map, List.map_map]
    exact List.map_congr_left inner
  have fields : ∀ marker marker' : String,
      (closeFirstDoc ((closeFirstDoc d.fields).map (·.dropMarker marker))).map
          (·.dropMarker marker') =
        ((closeFirstDoc d.fields).map (·.dropMarker marker)).map (·.dropMarker marker') := by
    intro marker marker'
    rw [closeFirstDoc_stripped]
  rw [stripMarker_eq marker, stripMarker_eq marker' d, stripMarker_eq marker',
    stripMarker_eq marker d]
  simp only [nested, fields, commute_map_map (Field.commute_dropMarker marker marker'),
    commute_map_map (Method.commute_dropMarker marker marker')]
termination_by d => sizeOf d

theorem commute_stripMarker_prependBody (marker name : String) (param : TypeExpr)
    (lines : List String) : Commute (stripMarker marker) (prependBody · name param lines) := by
  intro d
  have method : Commute (Method.dropMarker marker)
      (fun m => if m.hasSignature name param then m.prependBody lines else m) := by
    intro m
    have found : (m.dropMarker marker).hasSignature name param = m.hasSignature name param := rfl
    dsimp only
    rw [found]
    split <;> rfl
  rw [stripMarker_eq, stripMarker_eq]
  simp only [prependBody, commute_map_map method]

theorem countMethods_stripMarker (marker name : String) (param : TypeExpr) (d : Declaration) :
    (d.stripMarker marker).countMethods name param = d.countMethods name param := by
  rw [stripMarker_eq, countMethods, List.countP_map]
  rfl

/-- The tree with the declaration at a place changed; where there is none, nothing is. -/
def modifyAt (f : Declaration → Declaration) : List Nat → Declaration → Declaration
  | [], d => f d
  | i :: place, d => { d with nested := d.nested.modify i (modifyAt f place) }

theorem commute_stripMarker_modifyAt {marker : String} {f : Declaration → Declaration}
    (strip : Commute (stripMarker marker) f) (drop : Commute (dropMarker marker) f)
    (place : List Nat) :
    Commute (stripMarker marker) (modifyAt f place) ∧
      Commute (dropMarker marker) (modifyAt f place) := by
  induction place with
  | nil => exact ⟨strip, drop⟩
  | cons i place ih =>
    refine ⟨?_, fun d => rfl⟩
    intro d
    have inner : Commute (fun n => (stripMarker marker n).dropMarker marker) (modifyAt f place) :=
      Commute.comp_left ih.2 ih.1
    rw [stripMarker_eq, stripMarker_eq]
    simp only [modifyAt, stripMarkerAll_eq_map, commute_map_modify inner]

/-- The declaration with the field of an index decorated. -/
def decorateField (index : Nat) (s : DomainSettings) (d : Declaration) : Declaration :=
  { d with fields := d.fields.modify index (Field.decorated s) }

theorem commute_stripMarker_decorateField (index : Nat) (s : DomainSettings) :
    Commute (stripMarker generatorMarker) (decorateField index s) := by
  intro d
  have closed := closeFirstDoc_modify (Field.commute_closeDoc_decorated s) index d.fields
  have cleaned := commute_map_modify (Field.commute_dropMarker_decorated s) index
    (closeFirstDoc d.fields)
  rw [stripMarker_eq, stripMarker_eq]
  simp only [decorateField, closed, cleaned]

end Declaration

/-! ## Fields of a tree -/

/-- A field somewhere in a tree, the column that it is decorated for, and the settings. -/
structure FieldDecoration where
  /-- The place of the declaration that has the field. -/
  place : List Nat
  index : Nat
  column : Column
  settings : DomainSettings

namespace FieldDecoration

/-- The tree with the field decorated. -/
def apply (t : FieldDecoration) (d : Declaration) : Declaration :=
  d.modifyAt (Declaration.decorateField t.index t.settings) t.place

theorem commute_stripMarker_apply (t : FieldDecoration) :
    Commute (Declaration.stripMarker generatorMarker) t.apply :=
  (Declaration.commute_stripMarker_modifyAt
    (Declaration.commute_stripMarker_decorateField t.index t.settings) (fun _ => rfl) t.place).1

/-- Any fields may be decorated before or after generator markers are removed. -/
theorem stripMarker_foldl_apply (ts : List FieldDecoration) (d : Declaration) :
    (ts.foldl (fun d t => t.apply d) d).stripMarker generatorMarker =
      ts.foldl (fun d t => t.apply d) (d.stripMarker generatorMarker) := by
  induction ts generalizing d with
  | nil => rfl
  | cons t ts ih => rw [List.foldl_cons, List.foldl_cons, ih, t.commute_stripMarker_apply]

/-- The decorations of the first fields of a declaration, one for each column. -/
def ofColumns (s : DomainSettings) (columns : List Column) : List FieldDecoration :=
  columns.mapIdx fun index column => { place := [], index, column, settings := s }

theorem foldl_apply_ofColumns (s : DomainSettings) (columns : List Column) (d : Declaration) :
    (ofColumns s columns).foldl (fun d t => t.apply d) d =
      { d with
        fields := d.fields.mapIdx fun i f => if i < columns.length then f.decorated s else f } := by
  rw [ofColumns]
  induction columns using List.reverseRecOn with
  | nil =>
    have same : (d.fields.mapIdx fun i f => if i < ([] : List Column).length then f.decorated s
        else f) = d.fields := List.ext_getElem? (by simp)
    rw [same]
    cases d
    rfl
  | append_singleton columns c ih =>
    rw [List.mapIdx_concat, List.foldl_append, ih, List.foldl_cons, List.foldl_nil]
    simp only [apply, Declaration.modifyAt, Declaration.decorateField]
    congr 1
    refine List.ext_getElem? ?_
    intro j
    rw [List.getElem?_modify, List.getElem?_mapIdx, List.getElem?_mapIdx]
    cases d.fields[j]? with
    | none => rfl
    | some f =>
      rcases Nat.lt_trichotomy j columns.length with less | rfl | more
      · simp [less, Nat.ne_of_gt less, Nat.lt_succ_of_lt less]
      · simp
      · simp [Nat.ne_of_lt more, Nat.not_lt_of_gt more, Nat.not_lt.2 more]

end FieldDecoration

/-- The script with decorations of fields in front. -/
def Script.decorating : List FieldDecoration → Script → Script
  | [], rest => rest
  | t :: ts, rest =>
    .step t.place (.decorateField t.index t.column t.settings) (decorating ts rest)

section

variable {m : Type → Type} [Monad m] [MonadJournal m] [LawfulMonad m]

theorem Declaration.gives_modifyAt {change : Declaration → m Declaration}
    {f : Declaration → Declaration} (each : ∀ d, Gives (change d) (f d)) (place : List Nat)
    (d : Declaration) : Gives (d.changeAt change place) (d.modifyAt f place) := by
  induction place generalizing d with
  | nil => exact each d
  | cons i place ih =>
    rw [changeAt, modifyAt]
    cases found : d.nested[i]? with
    | none =>
      rw [List.modify_eq_self (List.getElem?_eq_none_iff.1 found)]
      cases d
      exact .pure _
    | some inner =>
      rw [List.modify_eq_set_getElem?, found]
      exact .bind (ih inner) (.pure _)

theorem Edit.gives_decorateField (index : Nat) (c : Column) (s : DomainSettings)
    (d : Declaration) :
    Gives ((Edit.decorateField index c s).apply d : m Declaration) (d.decorateField index s) := by
  rw [Edit.apply, Declaration.decorateField]
  cases found : d.fields[index]? with
  | none =>
    rw [List.modify_eq_self (List.getElem?_eq_none_iff.1 found)]
    cases d
    exact .pure _
  | some f =>
    rw [List.modify_eq_set_getElem?, found]
    exact .bind (f.gives_decorate c s) (.pure _)

theorem Script.gives_decorating {ts : List FieldDecoration} {rest : Script} {d e : Declaration}
    (given : Gives (rest.run (ts.foldl (fun d t => t.apply d) d) : m Declaration) e) :
    Gives ((Script.decorating ts rest).run d : m Declaration) e := by
  induction ts generalizing d with
  | nil => exact given
  | cons t ts ih =>
    exact .bind (Declaration.gives_modifyAt
      (Edit.gives_decorateField t.index t.column t.settings) t.place d) (ih given)

theorem Script.gives_stripGenerator {rest : Script} {d e : Declaration}
    (given : Gives (rest.run (d.stripMarker generatorMarker) : m Declaration) e) :
    Gives ((Script.step [] .stripGenerator rest).run d : m Declaration) e :=
  .bind d.gives_stripGenerator given

end

/-- The record class of all columns, with its fields decorated when it is put together already. -/
theorem Record.foldl_apply_properties (s : DomainSettings) (table : Table) :
    (FieldDecoration.ofColumns s table.columns).foldl (fun d t => t.apply d)
        (Hooks.properties [] table) =
      withProperties table (table.columns.map fun c => (c, (field c).decorated s)) := by
  have plain : Hooks.properties [] table =
      withProperties table (table.columns.map fun c => (c, field c)) := by
    rw [withProperties, List.foldl_map]
    rfl
  have typed : ∀ c, ((field c).decorated s).type = (field c).type := by
    intro c
    rw [field_decorated]
  have fields : ((table.columns.map field).mapIdx fun i f =>
      if i < table.columns.length then f.decorated s else f) =
        table.columns.map fun c => (field c).decorated s := by
    refine List.ext_getElem (by simp) ?_
    intro i below _
    simp only [List.length_mapIdx, List.length_map] at below
    simp [below]
  rw [plain, FieldDecoration.foldl_apply_ofColumns, withProperties_eq, withProperties_eq]
  simp only [holding, List.map_map, List.flatMap_map, Function.comp_def, typed]
  rw [← fields]

namespace Declaration

variable {m : Type → Type} [Monad m] [MonadJournal m] [LawfulMonad m]

/-- Patches that touch different lines of a tree give the same tree in either order. Markers may be
removed one after another in any order. Removing a marker does not change which methods get lines in
front of their bodies, nor how many they are, and it does not change what decoration adds to the
declaration, nor in which order; what is reported is the same, too. Fields anywhere in the tree may
be decorated before generator markers are removed or after that, whatever is done then. So a pass of
the domain plugin, which decorates each field as it is made and cleans the record class when it is
whole, makes the record class that is cleaned first, then gets its fields decorated, and then is
decorated itself. -/
theorem patches_commute (d : Declaration) :
    (∀ marker marker', (d.stripMarker marker).stripMarker marker' =
        (d.stripMarker marker').stripMarker marker) ∧
      (∀ marker name param lines,
        ((d.stripMarker marker).patchBodies name param lines : m (Nat × Declaration)) = do
          let (patched, e) ← d.patchBodies name param lines
          return (patched, e.stripMarker marker)) ∧
      (∀ marker columns s, ((d.stripMarker marker).decorate columns s : m Declaration) = do
          let e ← d.decorate columns s
          return e.stripMarker marker) ∧
      (∀ (fields : List FieldDecoration) (rest : Script), ∃ e,
        Gives ((Script.decorating fields (.step [] .stripGenerator rest)).run d : m Declaration) e ∧
          Gives ((Script.step [] .stripGenerator (.decorating fields rest)).run d : m Declaration)
            e) ∧
      ∀ (s : DomainSettings) (table : Table), ∃ record,
        Gives (Pass.buildRecord [.domain s] table : m (Option Declaration)) (some record) ∧
          Gives (do
            let plain ← Pass.buildFields [] table table.columns (Record.empty table)
            (Script.step [] .stripGenerator (.decorating (FieldDecoration.ofColumns s table.columns)
              (.step [] (.decorate table.columns s) .done))).run plain : m Declaration) record := by
  refine ⟨?_, ?_, ?_, ?_, ?_⟩
  · intro marker marker'
    exact commute_stripMarker marker' marker d
  · intro marker name param lines
    have tree := commute_stripMarker_prependBody marker name param lines d
    have named : (d.stripMarker marker).name = d.name := by rw [stripMarker_eq]
    simp only [patchBodies, countMethods_stripMarker, named, tree, bind_assoc, pure_bind]
  · intro marker columns s
    have tree := commute_stripMarker_decorated marker s columns d
    have named : (d.stripMarker marker).name = d.name := by rw [stripMarker_eq]
    unfold decorate
    rw [named, ← tree]
    split <;> simp only [bind_assoc, pure_bind]
  · intro fields rest
    have tree := FieldDecoration.stripMarker_foldl_apply fields d
    obtain ⟨e, given, -⟩ := rest.gives_run (m := m)
      (fields.foldl (fun d t => t.apply d) (d.stripMarker generatorMarker))
    refine ⟨e, Script.gives_decorating (Script.gives_stripGenerator ?_),
      Script.gives_stripGenerator (Script.gives_decorating given)⟩
    rw [tree]
    exact given
  · intro s table
    have alone : ∀ h ∈ ([] : List Hooks), h.Idle := by simp
    have host : Hooks.record [.domain s] table = some (Record.clean s table) :=
      Hooks.record_of_idle alone alone s table
    have record := Pass.gives_buildRecord (m := m) (.cons (Plugin.domain_follows s) .nil) table
    rw [host] at record
    refine ⟨Record.clean s table, record, ?_⟩
    have plain := Pass.gives_buildFields (m := m) .nil table table.columns (Record.empty table)
    have tree := FieldDecoration.stripMarker_foldl_apply
      (FieldDecoration.ofColumns s table.columns)
      (Hooks.properties [] table)
    refine .bind plain (Script.gives_stripGenerator (Script.gives_decorating ?_))
    have cleaned := decorated_stripMarker_withProperties s table
    rw [← Record.foldl_apply_properties, tree] at cleaned
    rw [← cleaned]
    exact .bind (gives_decorate _ _ _) (.pure _)

/-- A date below a record class: its marker goes and its annotation comes, whichever is first. -/
theorem patches_commute_nested :
    let date : TypeExpr :=
      .ofName { scope := [⟨"java", by decide⟩, ⟨"time", by decide⟩],
                simple := ⟨"LocalDate", by decide⟩ }
    let born : Field := { name := "born", type := date, annotations := [generatorMarker] }
    let item : Declaration :=
      { name := { scope := [], simple := ⟨"Item", by decide⟩ }
        kind := .classType
        fields := [born] }
    let d : Declaration :=
      { name := { scope := [], simple := ⟨"Person", by decide⟩ }
        kind := .classType
        nested := [item] }
    let dated : FieldDecoration :=
      { place := [0]
        index := 0
        column := { name := "BORN", property := "born", type := date }
        settings := { dateSerialize := true } }
    let early : Declaration :=
      ((Script.decorating [dated] (.step [] .stripGenerator .done)).run d : Id Declaration)
    let late : Declaration :=
      ((Script.step [] .stripGenerator (.decorating [dated] .done)).run d : Id Declaration)
    early = late ∧ late.nested.map (fun n => n.fields.map (·.annotations)) =
      [[["@DateTimeFormat(pattern = \"yyyy-MM-dd\")"]]] := by
  intro date born item d dated early late
  obtain ⟨-, -, -, fields, -⟩ := patches_commute (m := Id) d
  obtain ⟨e, ⟨_, first⟩, ⟨_, second⟩⟩ := fields [dated] .done
  exact ⟨first.trans second.symm, by decide⟩

end Declaration

end RecordSynth
