import RecordSynth.Proofs.Declaration.Order
import RecordSynth.Proofs.Declaration.Source
import RecordSynth.Proofs.Pass.Independence
import RecordSynth.Proofs.Pass.Interference
import RecordSynth.Proofs.Text.CamelCase
/-!
# Accessors

A getter and a setter are made for a column, while the field beside them is what plugins left of
the field of that column. So they fit the field as long as its name and its type are those of the
column, and their names differ as long as properties are spelled differently in camel case.
-/

namespace RecordSynth

/-! ## Members that stay -/

/-- The parameter that takes a value of the field. -/
def Field.parameter (f : Field) : Parameter := { name := f.name, type := f.type }

/-- The method without its annotations and its visibility. -/
def Method.bare (m : Method) : Method := { m with annotations := [], visibility := .packageAccess }

namespace Declaration

/-- Whatever else became of the declaration, its fields kept their names and types, and its methods
their names, parameters, result types and bodies. -/
structure KeptMembers (d e : Declaration) : Prop where
  fields : e.fields.map Field.parameter = d.fields.map Field.parameter
  methods : e.methods.map Method.bare = d.methods.map Method.bare

/-- Whatever else became of the declaration, it kept its name and its imports, but for the type behind
generator markers. -/
structure KeptImports (d e : Declaration) : Prop where
  name : e.name = d.name
  imports : ∀ n ∈ d.imports.names, n ≠ generatedType.name.text → n ∈ e.imports.names

variable {c d e : Declaration}

theorem KeptMembers.refl (d : Declaration) : d.KeptMembers d := ⟨rfl, rfl⟩

theorem KeptMembers.trans (first : c.KeptMembers d) (second : d.KeptMembers e) :
    c.KeptMembers e :=
  ⟨second.fields.trans first.fields, second.methods.trans first.methods⟩

theorem KeptImports.refl (d : Declaration) : d.KeptImports d := ⟨rfl, fun _ member _ => member⟩

theorem KeptImports.trans (first : c.KeptImports d) (second : d.KeptImports e) :
    c.KeptImports e where
  name := second.name.trans first.name
  imports n member other := second.imports n (first.imports n member other) other

/-- Markers are annotations. -/
theorem keptMembers_stripMarker (marker : String) (d : Declaration) :
    d.KeptMembers (d.stripMarker marker) := by
  rw [stripMarker_eq]
  refine ⟨?_, ?_⟩
  · have closed : (closeFirstDoc d.fields).map Field.parameter = d.fields.map Field.parameter := by
      cases d.fields with
      | nil => rfl
      | cons f fs =>
        have same : f.closeDoc.parameter = f.parameter := by
          rw [Field.closeDoc_eq]
          rfl
        rw [closeFirstDoc, List.map_cons, List.map_cons, same]
    rw [← closed, List.map_map]
    rfl
  · rw [List.map_map]
    rfl

/-- Of imports only the one behind markers goes with them. -/
theorem keptImports_stripMarker (marker : String) (d : Declaration) :
    d.KeptImports (d.stripMarker marker) := by
  rw [stripMarker_eq]
  refine ⟨rfl, fun n member other => ?_⟩
  simp [TypeSet.names_erase, member, other]

theorem kept_decorated (s : DomainSettings) (columns : List Column) (d : Declaration) :
    d.KeptMembers (d.decorated s columns) ∧ d.KeptImports (d.decorated s columns) := by
  rw [decorated_eq_foldl]
  exact ⟨⟨rfl, rfl⟩, rfl, fun n member _ => TypeSet.mem_names_foldl_insert.2 (.inl member)⟩

end Declaration

namespace Plugin

variable {σ : Type}

/-- Whatever the world is, fields that the plugin keeps have the name and the type they had. -/
def KeepsFields (p : Plugin (InWorld σ)) : Prop :=
  ∀ f d c table, Always (fun made => made.2 = true → made.1.parameter = f.parameter)
    (p.fieldCreated f d c table .baseRecord)

/-- Whatever the world is, record classes that the plugin keeps stand in a relation to what they
were. -/
def LeavesClasses (R : Declaration → Declaration → Prop) (p : Plugin (InWorld σ)) : Prop :=
  ∀ d table, Always (fun made => made.2 = true → R d made.1) (p.declarationCreated d table)

/-- Whatever the world is, record classes that the plugin keeps have the members they had. -/
def KeepsMembers (p : Plugin (InWorld σ)) : Prop := p.LeavesClasses Declaration.KeptMembers

/-- Whatever the world is, record classes that the plugin keeps have the imports they had. -/
def KeepsImports (p : Plugin (InWorld σ)) : Prop := p.LeavesClasses Declaration.KeptImports

theorem keepsFields_of_inert {p : Plugin (InWorld σ)} (inert : ∀ f d c table kind,
    p.fieldCreated f d c table kind = pure (f, true)) : p.KeepsFields := by
  intro f d c table
  rw [inert]
  exact .pure fun _ => rfl

theorem leavesClasses_of_inert {p : Plugin (InWorld σ)} {R : Declaration → Declaration → Prop}
    (refl : ∀ d, R d d) (inert : ∀ d table, p.declarationCreated d table = pure (d, true)) :
    p.LeavesClasses R := by
  intro d table
  rw [inert]
  exact .pure fun _ => refl d

theorem leavesClasses_of_follows {p : Plugin (InWorld σ)} {h : Hooks} (follows : p.Follows h)
    {R : Declaration → Declaration → Prop} (each : ∀ d table, R d (h.declaration d table).1) :
    p.LeavesClasses R := by
  intro d table
  refine (Always.of_gives (follows.declarationCreated d table)).mono ?_
  rintro _ rfl _
  exact each d table

/-- The plugin without what it adds, of which nothing need be known. -/
def muted (p : Plugin (InWorld σ)) : Plugin (InWorld σ) :=
  { p with additionalArtifacts := fun _ => pure [] }

/-- What is known of any plugin: each of its steps keeps what the plugin is known to keep. -/
def conduct (σ : Type) : Behaviour σ (Plugin (InWorld σ)) where
  plugin := muted
  mayAnswer _ _ := True
  fieldStep _ p f g := p.KeepsFields → g.parameter = f.parameter
  declarationStep _ p d e := (p.KeepsMembers → d.KeptMembers e) ∧ (p.KeepsImports → d.KeptImports e)
  extras _ _ := []
  always_validate _ _ := .trivial _
  always_fieldCreated _ f d c table journal world kept keeps :=
    keeps f d c table journal world kept
  always_declarationCreated _ d table journal world kept :=
    ⟨fun keeps => keeps d table journal world kept, fun keeps => keeps d table journal world kept⟩
  always_additionalArtifacts _ _ := .pure rfl

end Plugin

/-- The built-in plugins leave names and types of fields alone, and members and imports of record
classes. -/
theorem BuiltIn.keeps {σ : Type} (b : BuiltIn) :
    (b.plugin : Plugin (InWorld σ)).KeepsFields ∧ (b.plugin : Plugin (InWorld σ)).KeepsMembers ∧
      (b.plugin : Plugin (InWorld σ)).KeepsImports := by
  cases b with
  | domain s =>
    have follows := Plugin.domain_follows (m := InWorld σ) s
    refine ⟨?_, ?_, ?_⟩
    · intro f d c table
      refine (Always.of_gives (follows.fieldCreated f d c table .baseRecord)).mono ?_
      rintro _ rfl _
      obtain ⟨lines, -, decorated⟩ := Field.exists_decorated_eq_annotate s f.type
      show (f.decorated s).parameter = f.parameter
      rw [decorated f rfl]
      rfl
    · refine Plugin.leavesClasses_of_follows follows fun d table => ?_
      exact (d.keptMembers_stripMarker _).trans (Declaration.kept_decorated s table.columns _).1
    · refine Plugin.leavesClasses_of_follows follows fun d table => ?_
      exact (d.keptImports_stripMarker _).trans (Declaration.kept_decorated s table.columns _).2
  | service s =>
    exact ⟨Plugin.keepsFields_of_inert fun _ _ _ _ _ => rfl,
      Plugin.leavesClasses_of_inert .refl fun _ _ => rfl,
      Plugin.leavesClasses_of_inert .refl fun _ _ => rfl⟩
  | inert name =>
    exact ⟨Plugin.keepsFields_of_inert fun _ _ _ _ _ => rfl,
      Plugin.leavesClasses_of_inert .refl fun _ _ => rfl,
      Plugin.leavesClasses_of_inert .refl fun _ _ => rfl⟩

/-- Where each step of a participant that has `P` is one of `R`, the whole way is if all have it. -/
theorem Through.of_trans {ι α : Type} {S : ι → α → α → Prop} {P : ι → Prop} {R : α → α → Prop}
    (refl : ∀ a, R a a) (trans : ∀ {a b c}, R a b → R b c → R a c) {is : List ι} {a b : α}
    (through : Through S is a b) (each : ∀ i a b, S i a b → P i → R a b) (all : ∀ i ∈ is, P i) :
    R a b := by
  induction through with
  | done a => exact refl a
  | step first _ ih =>
    rw [List.forall_mem_cons] at all
    exact trans (each _ _ _ first all.1) (ih all.2)

namespace Pass

variable {σ : Type}

/-! ## The record classes of a run -/

theorem askAll_muted {α : Type} {hook : Plugin (InWorld σ) → α → InWorld σ (α × Bool)}
    (same : ∀ p, hook (Plugin.muted p) = hook p) (plugins : List (Plugin (InWorld σ))) :
    askAll hook (plugins.map Plugin.muted) = askAll hook plugins := by
  induction plugins with
  | nil => rfl
  | cons p ps ih =>
    funext a
    rw [List.map_cons, askAll, askAll, same, ih]

/-- A record class does not depend on what plugins add. -/
theorem buildRecord_muted (plugins : List (Plugin (InWorld σ))) (table : Table) :
    buildRecord (plugins.map Plugin.muted) table = buildRecord plugins table := by
  have fields : ∀ columns d, buildFields (plugins.map Plugin.muted) table columns d =
      buildFields plugins table columns d := by
    intro columns
    induction columns with
    | nil => exact fun _ => rfl
    | cons c columns ih =>
      intro d
      rw [buildFields, buildFields, askField_eq, askField_eq, askAll_muted fun _ => rfl]
      simp only [ih]
  rw [buildRecord, buildRecord, fields, askDeclaration_eq, askDeclaration_eq,
    askAll_muted fun _ => rfl]

theorem always_validate_sublist (plugins : List (Plugin (InWorld σ))) (warnings : List String) :
    Always (fun answer => answer.1.Sublist plugins) (validate plugins warnings) := by
  induction plugins generalizing warnings with
  | nil => exact .pure .slnil
  | cons p ps ih =>
    refine .bind (.trivial _) ?_
    rintro ⟨active, left⟩ -
    cases active with
    | false =>
      exact .bind (.trivial _) fun _ _ => .bind (ih left) fun _ others => .pure (others.cons p)
    | true => exact .bind (ih left) fun _ others => .pure (others.cons_cons p)

/-- What holds of the record class of each table holds of all that tables get. -/
theorem always_buildTables {plugins : List (Plugin (InWorld σ))} {P : Table → Declaration → Prop}
    (each : ∀ table, Always (fun record => ∀ d, record = some d → P table d)
      (buildRecord plugins table)) (recordProject : String) (tables : List Table) :
    Always (fun made => ∀ a ∈ made.1, ∃ table ∈ tables, P table a.declaration)
      (buildTables plugins recordProject tables) := by
  induction tables with
  | nil => exact .pure (by simp)
  | cons table tables ih =>
    refine .bind (each table) ?_
    intro record own
    refine .bind (.trivial _) fun _ _ => .bind ih ?_
    rintro ⟨records, extras⟩ others
    have rest : ∀ a ∈ records, ∃ t ∈ table :: tables, P t a.declaration := by
      intro a member
      obtain ⟨t, among, known⟩ := others a member
      exact ⟨t, List.mem_cons_of_mem table among, known⟩
    refine .pure ?_
    cases record with
    | none => exact rest
    | some d =>
      rw [List.forall_mem_cons]
      exact ⟨⟨table, List.mem_cons_self, own d rfl⟩, rest⟩

end Pass

/-! ## Properties of a record class -/

namespace Record

/-- A property of a record class: the column that it comes from, its field and its accessors. -/
structure Property where
  column : Column
  field : Field
  getter : Method
  setter : Method

/-- The getter returns and the setter takes and assigns a value of this name and type. -/
structure Accesses (value : Parameter) (getter setter : Method) : Prop where
  returns : getter.returnType = some value.type
  reads : getter.bodyLines = ["return " ++ value.name ++ ";"]
  takes : setter.parameters = [value]
  assigns : setter.bodyLines = ["this." ++ value.name ++ " = " ++ value.name ++ ";"]

/-- Accessors know what they access. -/
theorem Accesses.unique {value value' : Parameter} {getter setter : Method}
    (accesses : Accesses value getter setter) (accesses' : Accesses value' getter setter) :
    value = value' :=
  List.head_eq_of_cons_eq (accesses.takes.symm.trans accesses'.takes)

/-- The record class of a table has these properties and no other members: they belong to some of
the columns, and the accessors are those of the columns but for annotations and visibilities. -/
structure HasProperties (table : Table) (properties : List Property) (d : Declaration) : Prop where
  columns : (properties.map (·.column)).Sublist table.columns
  fields : d.fields = properties.map (·.field)
  methods : d.methods = properties.flatMap fun p => [p.getter, p.setter]
  getters : ∀ p ∈ properties, p.getter.bare = (getter p.column).bare
  setters : ∀ p ∈ properties, p.setter.bare = (setter p.column).bare

/-- The record class of a table imports what the types of its fields ask for, but for the type behind
generator markers. -/
structure ImportsTypes (table : Table) (properties : List Property) (d : Declaration) : Prop where
  name : d.name = table.recordType.name
  imports : ∀ p ∈ properties, ∀ n ∈ p.field.type.foreignNames d.name.scope,
    n ≠ generatedType.name → n.text ∈ d.imports.names

/-- The declaration is what plugins may have left of the record class of a table with these
properties. -/
structure LeftBy {σ : Type} (plugins : List (Plugin (InWorld σ))) (table : Table)
    (properties : List Property) (d : Declaration) : Prop where
  has : HasProperties table properties d
  imports : (∀ q ∈ plugins, q.KeepsImports) → ImportsTypes table properties d
  fields : (∀ q ∈ plugins, q.KeepsFields) →
    ∀ p ∈ properties, p.field.parameter = (field p.column).parameter

namespace HasProperties

variable {table : Table} {properties : List Property} {d : Declaration}

/-- Accessors access what their column has, whatever became of the field. -/
theorem accesses (has : HasProperties table properties d) {p : Property} (member : p ∈ properties) :
    Accesses (field p.column).parameter p.getter p.setter where
  returns := congrArg (·.returnType) (has.getters p member)
  reads := congrArg (·.bodyLines) (has.getters p member)
  takes := congrArg (·.parameters) (has.setters p member)
  assigns := congrArg (·.bodyLines) (has.setters p member)

theorem accesses_iff (has : HasProperties table properties d) {p : Property}
    (member : p ∈ properties) {value : Parameter} :
    Accesses value p.getter p.setter ↔ value = (field p.column).parameter := by
  constructor
  · exact fun accesses => accesses.unique (has.accesses member)
  · rintro rfl
    exact has.accesses member

theorem getterName (has : HasProperties table properties d) {p : Property} (member : p ∈ properties) :
    p.getter.name = "get" ++ Text.upperCamel p.column.property :=
  congrArg (·.name) (has.getters p member)

theorem setterName (has : HasProperties table properties d) {p : Property} (member : p ∈ properties) :
    p.setter.name = "set" ++ Text.upperCamel p.column.property :=
  congrArg (·.name) (has.setters p member)

theorem methodNames (has : HasProperties table properties d) :
    d.methods.map (·.name) = (properties.map fun p => Text.upperCamel p.column.property).flatMap
      fun word => ["get" ++ word, "set" ++ word] := by
  have names : ∀ p ∈ properties, [p.getter, p.setter].map (·.name) =
      ["get" ++ Text.upperCamel p.column.property,
        "set" ++ Text.upperCamel p.column.property] := by
    intro p member
    rw [List.map_cons, List.map_singleton, has.getterName member, has.setterName member]
  rw [has.methods, List.map_flatMap, List.flatMap_congr names, List.flatMap_map]

end HasProperties

theorem get_append_ne_set_append (v w : String) : "get" ++ v ≠ "set" ++ w := by
  intro same
  have letters := congrArg String.toList same
  simp at letters

/-- Getters and setters are told apart by their first letter, and else by the words behind. -/
theorem nodup_accessorNames_iff {ws : List String} :
    (ws.flatMap fun word => ["get" ++ word, "set" ++ word]).Nodup ↔ ws.Nodup := by
  have apart := get_append_ne_set_append
  have disjoint : Function.onFun List.Disjoint (fun word => ["get" ++ word, "set" ++ word]) =
      fun v w => v ≠ w := by
    funext v w
    simp [Function.onFun, apart, (apart _ _).symm, String.append_right_inj, eq_comm]
  rw [List.nodup_flatMap, disjoint]
  constructor
  · exact And.right
  · intro differ
    refine ⟨?_, differ⟩
    intro w _
    simp [apart]

/-- Members that stay are those of properties still. -/
theorem exists_properties {kept : List (Column × Field)} {fields : List Field}
    {methods : List Method} (ofFields : fields.map Field.parameter = kept.map (·.2.parameter))
    (ofMethods : methods.map Method.bare =
      kept.flatMap fun k => [(getter k.1).bare, (setter k.1).bare]) :
    ∃ properties : List Property,
      properties.map (fun p => (p.column, p.field.parameter)) =
        kept.map (fun k => (k.1, k.2.parameter)) ∧
      fields = properties.map (·.field) ∧
      methods = properties.flatMap (fun p => [p.getter, p.setter]) ∧
      ∀ p ∈ properties, p.getter.bare = (getter p.column).bare ∧
        p.setter.bare = (setter p.column).bare := by
  induction kept generalizing fields methods with
  | nil =>
    obtain rfl := List.map_eq_nil_iff.1 ofFields
    obtain rfl := List.map_eq_nil_iff.1 ofMethods
    exact ⟨[], rfl, rfl, rfl, by simp⟩
  | cons k kept ih =>
    obtain ⟨c, f⟩ := k
    -- For one field there are two methods.
    obtain ⟨g, fields, rfl, same, ofFields⟩ := List.map_eq_cons_iff.1 ofFields
    obtain ⟨gets, methods, rfl, gets', ofMethods⟩ := List.map_eq_cons_iff.1 ofMethods
    obtain ⟨sets, methods, rfl, sets', ofMethods⟩ := List.map_eq_cons_iff.1 ofMethods
    obtain ⟨properties, columns, rfl, rfl, accessors⟩ := ih ofFields ofMethods
    refine ⟨⟨c, g, gets, sets⟩ :: properties, ?_, rfl, rfl, ?_⟩
    · rw [List.map_cons, List.map_cons, columns, same]
    · rw [List.forall_mem_cons]
      exact ⟨⟨gets', sets'⟩, accessors⟩

theorem mem_names_holding {table : Table} {kept : List (Column × Field)} {k : Column × Field}
    {n : QualifiedName} (present : k ∈ kept)
    (asked : n ∈ k.2.type.foreignNames table.recordType.name.scope) :
    n.text ∈ (holding table kept).imports.names := by
  have listed : n ∈ generatedType.foreignNames table.recordType.name.scope ++
      kept.flatMap fun k => k.2.type.foreignNames table.recordType.name.scope :=
    List.mem_append_right _ (List.mem_flatMap.2 ⟨k, present, asked⟩)
  exact List.mem_map.2 ⟨TypeExpr.ofName n, TypeSet.mem_ofNames.2 ⟨n, listed, rfl⟩, rfl⟩

/-- A record class that kept the members it was put together with has a property for each. -/
theorem HasProperties.of_keptMembers {table : Table} {kept : List (Column × Field)}
    {d : Declaration} (among : (kept.map Prod.fst).Sublist table.columns)
    (members : (holding table kept).KeptMembers d) :
    ∃ properties, HasProperties table properties d ∧
      ∀ p ∈ properties, ∃ k ∈ kept, k.1 = p.column ∧ k.2.parameter = p.field.parameter := by
  have ofFields : d.fields.map Field.parameter = kept.map (·.2.parameter) := by
    rw [members.fields, holding, List.map_map]
    rfl
  have ofMethods : d.methods.map Method.bare =
      kept.flatMap fun k => [(getter k.1).bare, (setter k.1).bare] := by
    rw [members.methods, holding, List.map_flatMap]
    rfl
  obtain ⟨properties, same, fields, methods, accessors⟩ := exists_properties ofFields ofMethods
  have columns : properties.map (·.column) = kept.map Prod.fst := by
    have firsts := congrArg (List.map Prod.fst) same
    rwa [List.map_map, List.map_map] at firsts
  refine ⟨properties,
    { columns := columns ▸ among
      fields
      methods
      getters := fun p member => (accessors p member).1
      setters := fun p member => (accessors p member).2 }, ?_⟩
  intro p member
  have found : (p.column, p.field.parameter) ∈ kept.map (fun k => (k.1, k.2.parameter)) := by
    rw [← same]
    exact List.mem_map_of_mem member
  obtain ⟨k, present, equal⟩ := List.mem_map.1 found
  exact ⟨k, present, congrArg Prod.fst equal, congrArg Prod.snd equal⟩

/-- A record class that kept its imports has those that its fields asked for. -/
theorem ImportsTypes.of_keptImports {table : Table} {kept : List (Column × Field)}
    {properties : List Property} {d : Declaration} (imports : (holding table kept).KeptImports d)
    (origin : ∀ p ∈ properties, ∃ k ∈ kept, k.1 = p.column ∧ k.2.parameter = p.field.parameter) :
    ImportsTypes table properties d := by
  refine ⟨imports.name, fun p member n asked other => ?_⟩
  obtain ⟨k, present, -, equal⟩ := origin p member
  have typed : k.2.type = p.field.type := congrArg Parameter.type equal
  rw [imports.name, ← typed] at asked
  exact imports.imports n.text (mem_names_holding present asked) fun texts =>
    other (QualifiedName.text_injective texts)

end Record

namespace Pass

variable {σ : Type} {plugins : List (Plugin (InWorld σ))}

/-- Plugins that leave the members of record classes alone make classes that have the properties of
columns. -/
theorem always_buildRecord_leftBy (keep : ∀ q ∈ plugins, q.KeepsMembers) (table : Table) :
    Always (fun record => ∀ d, record = some d →
        ∃ properties, Record.LeftBy plugins table properties d)
      (buildRecord plugins table) := by
  -- A behaviour knows what its participants add, so they are muted; record classes stay the same.
  have built := (Plugin.conduct σ).always_buildRecord plugins table
  rw [show plugins.map (Plugin.conduct σ).plugin = plugins.map Plugin.muted from rfl,
    buildRecord_muted] at built
  refine built.mono ?_
  intro record builds d made
  obtain ⟨kept, among, fieldSteps, classSteps⟩ := builds d made
  have members : (Record.holding table kept).KeptMembers d :=
    classSteps.of_trans .refl .trans (fun _ _ _ step => step.1) keep
  obtain ⟨properties, has, origin⟩ := Record.HasProperties.of_keptMembers among members
  refine ⟨properties, has, fun keepImports => ?_, fun keepFields p member => ?_⟩
  · have imports : (Record.holding table kept).KeptImports d :=
      classSteps.of_trans .refl .trans (fun _ _ _ step => step.2) keepImports
    exact .of_keptImports imports origin
  · obtain ⟨k, present, column, same⟩ := origin p member
    have left : k.2.parameter = (Record.field k.1).parameter :=
      (fieldSteps k present).of_trans (R := fun f g : Field => g.parameter = f.parameter)
        (fun _ => rfl) (fun first second => second.trans first) (fun _ _ _ step => step) keepFields
    rw [← same, left, column]

theorem always_parts_leftBy (keep : ∀ q ∈ plugins, q.KeepsMembers) (recordProject : String)
    (tables : List Table) :
    Always (fun made => ∀ a ∈ made.1, ∃ table ∈ tables, ∃ properties,
        Record.LeftBy plugins table properties a.declaration)
      (parts { plugins, recordProject } tables) := by
  refine .bind (always_validate_sublist plugins []) ?_
  rintro ⟨active, warnings⟩ taking
  have each := always_buildRecord_leftBy fun q member => keep q (taking.subset member)
  refine .bind (.trivial _) fun _ _ => .bind (always_buildTables each recordProject tables) ?_
  intro made known
  refine .pure ?_
  intro a member
  obtain ⟨table, among, properties, left⟩ := known a member
  exact ⟨table, among, properties, left.has,
    fun keepImports => left.imports fun q member => keepImports q (taking.subset member),
    fun keepFields => left.fields fun q member => keepFields q (taking.subset member)⟩

/-- Accessors follow columns. Plugins may edit fields in any way and refuse them; as long as they
leave the members of whole record classes alone, every record class of a run has a getter and a
setter for each of its fields, which return, take and assign the property of the column with the
type of the column. So they fit the field exactly if it has this name and this type still, which it
has in any case if plugins leave names and types alone. If plugins leave the imports of whole record
classes alone too, the class imports what the type of the field asks for, but for the type behind
generator markers. -/
theorem parts_accessors_follow_columns (keep : ∀ q ∈ plugins, q.KeepsMembers)
    (recordProject : String) (tables : List Table) :
    Always (fun made => ∀ a ∈ made.1, ∃ table ∈ tables, ∃ properties,
        Record.HasProperties table properties a.declaration ∧
        (∀ p ∈ properties,
          Record.Accesses (Record.field p.column).parameter p.getter p.setter ∧
          (Record.Accesses p.field.parameter p.getter p.setter ↔
            p.field.parameter = (Record.field p.column).parameter)) ∧
        ((∀ q ∈ plugins, q.KeepsFields) →
          ∀ p ∈ properties, Record.Accesses p.field.parameter p.getter p.setter) ∧
        ((∀ q ∈ plugins, q.KeepsImports) →
          Record.ImportsTypes table properties a.declaration))
      (parts { plugins, recordProject } tables) := by
  refine (always_parts_leftBy keep recordProject tables).mono ?_
  intro made known a member
  obtain ⟨table, among, properties, left⟩ := known a member
  refine ⟨table, among, properties, left.has, ?_, ?_, left.imports⟩
  · intro p own
    exact ⟨left.has.accesses own, left.has.accesses_iff own⟩
  · intro keepFields p own
    rw [left.has.accesses_iff own]
    exact left.fields keepFields p own

/-- A plugin counts the dates that it turns into something else. -/
theorem parts_accessors_follow_columns_retyped :
    let named := fun (package simple : Identifier) =>
      TypeExpr.ofName { scope := [.javaSegment, package], simple }
    let date := named ⟨"time", by decide⟩ ⟨"LocalDate", by decide⟩
    let count := named ⟨"math", by decide⟩ ⟨"BigInteger", by decide⟩
    let table : Table :=
      { name := "PERSON"
        recordType := .ofName { scope := [⟨"a", by decide⟩], simple := ⟨"Person", by decide⟩ }
        columns := [{ name := "BORN", property := "born", type := date }] }
    let retype : Plugin (InWorld Nat) :=
      { Plugin.inert "retype" with
        fieldCreated := fun f _ _ _ _ => do
          StateT.lift (modify (· + 1))
          return ({ f with type := count }, true) }
    let pass : Pass (InWorld Nat) := { plugins := [retype, .domain {}], recordProject := "out" }
    let made := (((parts pass [table]).run []).run 0).1.1
    (∀ q ∈ pass.plugins, q.KeepsMembers) ∧ (∀ q ∈ pass.plugins, q.KeepsImports) ∧
      (∀ a ∈ made.1, ∃ properties, Record.HasProperties table properties a.declaration ∧
        Record.ImportsTypes table properties a.declaration ∧ ∀ p ∈ properties,
          Record.Accesses (Record.field p.column).parameter p.getter p.setter) ∧
      made.1.map (fun a => (a.declaration.fields.map (·.type),
        a.declaration.methods.filterMap (·.returnType), a.declaration.imports.names)) =
        [([count], [date], ["java.math.BigInteger"])] := by
  intro named date count table retype pass made
  have keep : ∀ q ∈ pass.plugins, q.KeepsMembers := by
    intro q member
    rcases List.mem_pair.1 member with rfl | rfl
    · exact Plugin.leavesClasses_of_inert .refl fun _ _ => rfl
    · exact (BuiltIn.keeps (.domain {})).2.1
  have keepImports : ∀ q ∈ pass.plugins, q.KeepsImports := by
    intro q member
    rcases List.mem_pair.1 member with rfl | rfl
    · exact Plugin.leavesClasses_of_inert .refl fun _ _ => rfl
    · exact (BuiltIn.keeps (.domain {})).2.2
  refine ⟨keep, keepImports, ?_, by decide⟩
  intro a member
  obtain ⟨t, among, properties, has, accesses, -, imports⟩ :=
    parts_accessors_follow_columns keep "out" [table] [] 0 a member
  obtain rfl := List.mem_singleton.1 among
  exact ⟨properties, has, imports keepImports, fun p own => (accesses p own).1⟩

/-- Accessors need not fit the field beside them. A plugin renames and retypes the field of a date:
the getter and the setter are those of the date, which is not imported any more. And where a column
has the type behind generator markers, accessors mention it while its import goes with the
markers. -/
theorem run_accessors_miss_edits :
    let named := fun (package simple : Identifier) =>
      TypeExpr.ofName { scope := [.javaSegment, package], simple }
    let date := named ⟨"time", by decide⟩ ⟨"LocalDate", by decide⟩
    let count := named ⟨"math", by decide⟩ ⟨"BigInteger", by decide⟩
    let table := fun (property : String) (type : TypeExpr) =>
      { name := "PERSON"
        recordType := .ofName { scope := [⟨"a", by decide⟩], simple := ⟨"Person", by decide⟩ }
        columns := [{ name := "", property, type }] : Table }
    let edit : Plugin Id :=
      { Plugin.inert "edit" with
        fieldCreated := fun f _ _ _ _ => pure ({ f with name := "age", type := count }, true) }
    let edited := run { plugins := [edit] } [table "born" date]
    let marked := run { plugins := [.domain {}] : Pass Id } [table "origin" generatedType]
    (∃ d, edited.artifacts.map (·.declaration) = [d] ∧
      d.fields.map Field.parameter = [{ name := "age", type := count }] ∧
      d.methods.filterMap (·.returnType) = [date] ∧
      d.methods.flatMap (·.parameters) = [{ name := "born", type := date }] ∧
      d.methods.map (·.bodyLines) = [["return born;"], ["this.born = born;"]] ∧
      d.imports.names = ["javax.annotation.Generated", "java.math.BigInteger"] ∧
      ¬∀ f ∈ d.fields, ∃ m ∈ d.methods, m.returnType = some f.type) ∧
    ∃ d, marked.artifacts.map (·.declaration) = [d] ∧
      d.methods.filterMap (·.returnType) = [generatedType] ∧
      d.imports.names = [] ∧
      ¬∀ n ∈ generatedType.foreignNames d.name.scope, n.text ∈ d.imports.names := by
  intro named date count table edit edited marked
  refine ⟨⟨_, rfl, ?_, ?_, ?_, ?_, ?_, ?_⟩, _, rfl, ?_, ?_, ?_⟩ <;> decide

/-- Accessors are told apart by the camel-case spelling of properties. In every record class of a
run of plugins that leave the members of whole record classes alone, no getter has the name of a
setter, and the names of all methods are different exactly if the properties of the columns that were
kept are spelled differently. So they are if the properties of all columns of the table are spelled
differently, and for properties in ASCII if these differ in their letters and digits, the case of
letters aside. -/
theorem parts_accessorNames_nodup_iff (keep : ∀ q ∈ plugins, q.KeepsMembers)
    (recordProject : String) (tables : List Table) :
    Always (fun made => ∀ a ∈ made.1, ∃ table ∈ tables, ∃ properties,
        Record.HasProperties table properties a.declaration ∧
        (∀ p ∈ properties, ∀ q ∈ properties, p.getter.name ≠ q.setter.name) ∧
        ((a.declaration.methods.map (·.name)).Nodup ↔
          (properties.map fun p => Text.upperCamel p.column.property).Nodup) ∧
        ((table.columns.map fun c => Text.upperCamel c.property).Nodup →
          (a.declaration.methods.map (·.name)).Nodup) ∧
        ((∀ c ∈ table.columns, c.property.toList.all Text.isAscii) →
          (table.columns.map fun c => Text.letters c.property).Nodup →
          (a.declaration.methods.map (·.name)).Nodup))
      (parts { plugins, recordProject } tables) := by
  refine (always_parts_leftBy keep recordProject tables).mono ?_
  intro made known a member
  obtain ⟨table, among, properties, has, -, -⟩ := known a member
  have apart : ∀ p ∈ properties, ∀ q ∈ properties, p.getter.name ≠ q.setter.name := by
    intro p own q other
    rw [has.getterName own, has.setterName other]
    exact Record.get_append_ne_set_append _ _
  have names : (a.declaration.methods.map (·.name)).Nodup ↔
      (properties.map fun p => Text.upperCamel p.column.property).Nodup := by
    rw [has.methodNames, Record.nodup_accessorNames_iff]
  have kept : (properties.map fun p => Text.upperCamel p.column.property).Sublist
      (table.columns.map fun c => Text.upperCamel c.property) := by
    have spelled := has.columns.map fun c => Text.upperCamel c.property
    rwa [List.map_map] at spelled
  refine ⟨table, among, properties, has, apart, names, ?_, ?_⟩
  · intro differ
    exact names.2 (differ.sublist kept)
  · intro ascii differ
    refine names.2 (List.Nodup.sublist kept ?_)
    refine List.Nodup.map_on ?_ (List.Nodup.of_map _ differ)
    intro c own c' own' alike
    exact List.inj_on_of_nodup_map differ own own'
      (Text.letters_eq_of_upperCamel_eq (ascii c own) (ascii c' own') alike)

theorem parts_accessorNames_nodup_iff_person :
    let text := TypeExpr.ofName (.implicit ⟨"String", by decide⟩)
    let table : Table :=
      { name := "PERSON"
        recordType := .ofName { scope := [⟨"a", by decide⟩], simple := ⟨"Person", by decide⟩ }
        columns :=
          [{ name := "FIRST_NAME", property := "firstName", type := text },
           { name := "LAST_NAME", property := "lastName", type := text }] }
    let pass : Pass (InWorld Nat) := { plugins := [.domain {}], recordProject := "out" }
    let made := (((parts pass [table]).run []).run 0).1.1
    ((∀ q ∈ pass.plugins, q.KeepsMembers) ∧
      (∀ c ∈ table.columns, c.property.toList.all Text.isAscii) ∧
      (table.columns.map fun c => Text.letters c.property).Nodup) ∧
      (∀ a ∈ made.1, (a.declaration.methods.map (·.name)).Nodup) ∧
      made.1.map (fun a => a.declaration.methods.map (·.name)) =
        [["getFirstName", "setFirstName", "getLastName", "setLastName"]] := by
  intro text table pass made
  have keep : ∀ q ∈ pass.plugins, q.KeepsMembers := by
    intro q member
    obtain rfl := List.mem_singleton.1 member
    exact (BuiltIn.keeps (.domain {})).2.1
  have ascii : ∀ c ∈ table.columns, c.property.toList.all Text.isAscii := by decide +kernel
  have differ : (table.columns.map fun c => Text.letters c.property).Nodup := by decide +kernel
  refine ⟨⟨keep, ascii, differ⟩, ?_, by decide +kernel⟩
  intro a member
  obtain ⟨t, among, -, -, -, -, -, names⟩ :=
    parts_accessorNames_nodup_iff keep "out" [table] [] 0 a member
  obtain rfl := List.mem_singleton.1 among
  exact names ascii differ

/-- Different properties may have the same accessors: where words end is lost. -/
theorem run_accessorNames_clash :
    let type := TypeExpr.ofName (.implicit ⟨"Long", by decide⟩)
    let table : Table :=
      { name := "STOCK"
        recordType := .ofName { scope := [⟨"a", by decide⟩], simple := ⟨"Stock", by decide⟩ }
        columns := [.derive "ITEM_A_B" type, .derive "ITEM_AB" type] }
    let made := (run ({ plugins := [] } : Pass Id) [table]).artifacts.map (·.declaration)
    table.columns.map (·.property) = ["itemAB", "itemAb"] ∧
      (table.columns.map (·.property)).Nodup ∧
      made.map (fun d => d.methods.map (·.name)) =
        [["getItemAb", "setItemAb", "getItemAb", "setItemAb"]] ∧
      ¬∀ d ∈ made, (d.methods.map (·.name)).Nodup := by
  intro type table made
  have properties : table.columns.map (·.property) = ["itemAB", "itemAb"] := by decide +kernel
  have names : made.map (fun d => d.methods.map (·.name)) =
      [["getItemAb", "setItemAb", "getItemAb", "setItemAb"]] := by decide +kernel
  refine ⟨properties, ?_, names, ?_⟩
  · rw [properties]
    decide
  · intro differ
    have each := List.forall_mem_map.2 differ
    rw [names] at each
    revert each
    decide

end Pass

end RecordSynth
