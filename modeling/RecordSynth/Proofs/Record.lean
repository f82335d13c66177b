import RecordSynth.Declaration.Decoration
import RecordSynth.Pass
import RecordSynth.Proofs.Declaration.Imports
/-!
# Record classes in full

A record class is put together from the properties of its columns, cleaned of generator markers and
decorated. Each of these steps changes the whole class; what the class is after all of them is
written out here, field by field.
-/

namespace RecordSynth

namespace Record

/-! ## Properties -/

/-- The record class of a table with the properties of some columns, each with its field. -/
def withProperties (table : Table) (kept : List (Column × Field)) : Declaration :=
  kept.foldl (fun d k => addProperty d k.1 k.2) (empty table)

theorem withProperties_append (table : Table) (kept : List (Column × Field)) (c : Column)
    (f : Field) :
    withProperties table (kept ++ [(c, f)]) = addProperty (withProperties table kept) c f := by
  rw [withProperties, List.foldl_append]
  rfl

/-- The record class of a table that holds exactly the given fields: a getter and a setter for the
column of each, and the imports that their types ask for behind that of the generator marker. -/
def holding (table : Table) (kept : List (Column × Field)) : Declaration where
  name := table.recordType.name
  kind := .classType
  visibility := .publicAccess
  imports := .ofNames (generatedType.foreignNames table.recordType.name.scope ++
    kept.flatMap fun k => k.2.type.foreignNames table.recordType.name.scope)
  fields := kept.map (·.2)
  methods := kept.flatMap fun k => [getter k.1, setter k.1]

theorem withProperties_eq (table : Table) (kept : List (Column × Field)) :
    withProperties table kept = holding table kept := by
  induction kept using List.reverseRecOn with
  | nil =>
    rw [withProperties, List.foldl_nil, empty, Declaration.addImport, TypeExpr.importsFrom_eq]
    dsimp only
    rw [holding, show ({} : TypeSet) = .ofNames [] from rfl, TypeSet.foldl_insert_ofNames]
    simp
  | append_singleton kept k ih =>
    -- The type of the field is the one the plugins left it with, the methods are of the column.
    rw [withProperties_append, ih, addProperty, Declaration.addImport, TypeExpr.importsFrom_eq,
      holding]
    dsimp only
    rw [TypeSet.foldl_insert_ofNames]
    simp [holding, Declaration.addMethod, Declaration.addField]

theorem addProperty_holding (table : Table) (kept : List (Column × Field)) (c : Column)
    (f : Field) : addProperty (holding table kept) c f = holding table (kept ++ [(c, f)]) := by
  rw [← withProperties_eq, ← withProperties_append, withProperties_eq]

/-! ## Clean record classes -/

/-- The annotations of dates in a column: that of the library, if there is one, then the one for
requests, both in the pattern of the kind of date. -/
def dateLines (s : DomainSettings) (c : Column) : List String :=
  match s.dateSerialize, c.meaning with
  | true, .date => Field.dateAnnotations s.json "yyyy-MM-dd"
  | true, .dateTime => Field.dateAnnotations s.json "yyyy-MM-dd HH:mm:ss"
  | _, _ => []

/-- The field of the column with an index: only the comment of the first one has a line, which is
empty. -/
def cleanField (s : DomainSettings) (index : Nat) (c : Column) : Field where
  name := c.property
  type := c.type
  visibility := .privateAccess
  annotations := dateLines s c
  docLines := if index = 0 then [""] else []

/-- The getter and the setter of a column. -/
def cleanMethods (c : Column) : List Method :=
  [{ name := "get" ++ Text.upperCamel c.property
     returnType := some c.type
     bodyLines := ["return " ++ c.property ++ ";"]
     visibility := .publicAccess },
   { name := "set" ++ Text.upperCamel c.property
     parameters := [{ name := c.property, type := c.type }]
     bodyLines := ["this." ++ c.property ++ " = " ++ c.property ++ ";"]
     visibility := .publicAccess }]

/-- The types behind decoration, in the order in which they are imported. -/
def decorationTypes (s : DomainSettings) (columns : List Column) : List TypeExpr :=
  (if s.serializable then [serializableType] else []) ++
    if s.importsDates columns then
      (s.json.annotationName?.map TypeExpr.ofName).toList ++ [dateTimeFormatType]
    else []

/-- The names that the record class of a table imports, with repetitions: those that the types of
its columns ask for, but for the type behind generator markers, and those behind its decoration. -/
def importedNames (s : DomainSettings) (table : Table) : List QualifiedName :=
  ((table.columns.flatMap fun c => c.type.foreignNames table.recordType.name.scope).filter
      (· ≠ generatedType.name)) ++
    (decorationTypes s table.columns).flatMap (·.foreignNames table.recordType.name.scope)

/-- The record class of a table, cleaned and decorated. -/
def clean (s : DomainSettings) (table : Table) : Declaration where
  name := table.recordType.name
  kind := .classType
  visibility := .publicAccess
  superType := none
  superInterfaces := ⟨if s.serializable then [serializableType.unqualified] else []⟩
  imports := .ofNames (importedNames s table)
  fields := table.columns.mapIdx (cleanField s)
  methods := table.columns.flatMap cleanMethods
  annotations := []
  nested := []

/-- A field that has the type of its column gets the lines of the column. -/
theorem decorated_of_type {s : DomainSettings} {c : Column} {f : Field} (typed : f.type = c.type) :
    f.decorated s = { f with annotations := f.annotations ++ dateLines s c } := by
  have asked : f.pattern? s = if s.dateSerialize then c.meaning.datePattern? else none := by
    rw [Field.pattern?, typed]
    rfl
  rw [Field.decorated, asked, dateLines]
  cases s.dateSerialize with
  | false => simp
  | true => cases c.meaning <;> simp [Meaning.datePattern?]

theorem field_decorated (s : DomainSettings) (c : Column) :
    (field c).decorated s = { field c with annotations := generatorMarker :: dateLines s c } :=
  decorated_of_type rfl

theorem cleanField_of_later (s : DomainSettings) (c : Column) :
    ((field c).decorated s).dropMarker generatorMarker =
      { cleanField s 0 c with docLines := [] } := by
  rw [field_decorated, Field.dropMarker, List.erase_cons_head]
  rfl

theorem cleanField_of_first (s : DomainSettings) (c : Column) :
    ((field c).decorated s).closeDoc.dropMarker generatorMarker = cleanField s 0 c := by
  rw [field_decorated, Field.closeDoc, if_neg (by simp [field]), Field.dropMarker,
    List.erase_cons_head]
  rfl

/-- Of the fields only the first gets a line, and each loses its own marker alone. -/
theorem fields_cleaned (s : DomainSettings) (columns : List Column) :
    (closeFirstDoc (columns.map fun c => (field c).decorated s)).map
      (·.dropMarker generatorMarker) = columns.mapIdx (cleanField s) := by
  cases columns with
  | nil => rfl
  | cons c columns =>
    have later : columns.mapIdx (fun i => cleanField s (i + 1)) =
        columns.map fun c => { cleanField s 0 c with docLines := [] } := by
      refine List.ext_getElem (by simp) ?_
      intro i below _
      simp [cleanField]
    rw [List.map_cons, closeFirstDoc, List.map_cons, List.mapIdx_cons, later, List.map_map,
      cleanField_of_first]
    simp only [Function.comp_def, cleanField_of_later]

theorem methods_cleaned (columns : List Column) :
    (columns.flatMap fun c => [getter c, setter c]).map (·.dropMarker generatorMarker) =
      columns.flatMap cleanMethods := by
  have each : ∀ c, [getter c, setter c].map (·.dropMarker generatorMarker) = cleanMethods c := by
    intro c
    simp [Method.dropMarker, getter, setter, cleanMethods]
  rw [List.map_flatMap]
  simp only [each]

/-- The import of the generator marker goes, wherever the marker was imported from. -/
theorem filter_generated (scope : List Identifier) (ns : List QualifiedName) :
    (generatedType.foreignNames scope ++ ns).filter (· ≠ generatedType.name) =
      ns.filter (· ≠ generatedType.name) := by
  have gone : (generatedType.foreignNames scope).filter (· ≠ generatedType.name) = [] := by
    rw [generatedType, TypeExpr.foreignNames_ofName]
    split <;> simp [TypeExpr.ofName, QualifiedName.element]
  rw [List.filter_append, gone, List.nil_append]

end Record

namespace Declaration

/-- Decoration adds the imports behind it to those that are there, and a super-interface. -/
theorem decorated_eq {d : Declaration} {ns : List QualifiedName}
    (known : d.imports = .ofNames ns) (s : DomainSettings) (columns : List Column) :
    d.decorated s columns =
      { d with
        superInterfaces := if s.serializable then
          d.superInterfaces.insert serializableType.unqualified else d.superInterfaces
        imports := .ofNames (ns ++ (Record.decorationTypes s columns).flatMap
          (·.foreignNames d.name.scope)) } := by
  obtain ⟨name, kind, visibility, superType, _, _, fields, methods, annotations, nested⟩ := d
  dsimp only at known
  subst known
  unfold decorated markSerializable importDates Record.decorationTypes
  cases s.serializable <;> cases s.importsDates columns <;> cases s.json <;>
    simp [addImport, addSuperInterface, TypeExpr.importsFrom_eq, TypeSet.foldl_insert_ofNames,
      JsonLibrary.annotationName?]

/-- The record class of all columns, with their fields decorated, is clean in the end. -/
theorem decorated_stripMarker_withProperties (s : DomainSettings) (table : Table) :
    ((Record.withProperties table
      (table.columns.map fun c => (c, (Record.field c).decorated s))).stripMarker
        generatorMarker).decorated s table.columns = Record.clean s table := by
  have stripped : (Record.withProperties table
      (table.columns.map fun c => (c, (Record.field c).decorated s))).stripMarker generatorMarker =
      { name := table.recordType.name
        kind := .classType
        visibility := .publicAccess
        imports := .ofNames ((table.columns.flatMap fun c =>
          c.type.foreignNames table.recordType.name.scope).filter (· ≠ generatedType.name))
        fields := table.columns.mapIdx (Record.cleanField s)
        methods := table.columns.flatMap Record.cleanMethods } := by
    have kept : ∀ c, ((Record.field c).decorated s).type = c.type := by
      intro c
      rw [Record.field_decorated]
      rfl
    rw [Record.withProperties_eq, Record.holding, stripMarker]
    dsimp only
    rw [TypeSet.erase_ofNames, Record.filter_generated, List.map_map, List.flatMap_map,
      List.flatMap_map, Record.methods_cleaned]
    simp only [Function.comp_def, Record.fields_cleaned, kept, stripMarkerAll]
  rw [stripped, decorated_eq rfl, Record.clean]
  cases s.serializable <;> rfl

end Declaration

end RecordSynth
