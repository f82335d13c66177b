import RecordSynth.Declaration.Source
import RecordSynth.Proofs.Declaration.Edits
import RecordSynth.Proofs.Pass.Interference
import RecordSynth.Proofs.Schema
import RecordSynth.Proofs.Service
/-!
# Names that are declared

A service artifact goes by a name that was made for it, in a package, and that is always one a
class can have. A record class goes by the name of its record type, whatever that is: any type may
stand in a schema, arrays and primitive types as well, and nothing between the schema and the source
file asks whether a class can be called so.
-/

namespace RecordSynth

/-! ## Names of classes -/

namespace QualifiedName

/-- A text that may name a class: a dotted path of identifiers that is no primitive type. -/
structure IsClassText (s : String) : Prop where
  path : IsPath s.toList
  notPrimitive : s ∉ wrappers.map (·.1)

theorem isPath_text_iff {n : QualifiedName} : IsPath n.text.toList ↔ n.rank = 0 := by
  constructor
  · intro path
    -- A path is the text of a name without brackets, and no two names have the same text.
    obtain ⟨scope, simple, same⟩ := exists_segments_of_isPath path
    have texts : n.text = text { scope, simple } := by
      rw [← String.toList_inj, ← same, toList_text, brackets, List.append_nil]
    rw [text_injective texts]
  · intro flat
    rw [toList_text, flat, brackets, List.append_nil]
    exact isPath_dotted n.scope n.simple

theorem isPrimitive_of_packaged {n : QualifiedName} (packaged : n.scope ≠ []) :
    n.isPrimitive = false := by
  simp [isPrimitive, packaged]

/-- Of names that are no arrays, the primitive ones have the texts of primitive types. -/
theorem text_mem_wrappers_iff {n : QualifiedName} (flat : n.rank = 0) :
    n.text ∈ wrappers.map (·.1) ↔ n.isPrimitive = true := by
  by_cases bare : n.scope = []
  · have simple : n.text = n.simple.text := by
      simp [text, bare, flat, brackets, dotted, Text.join]
    have found : n.isPrimitive = (wrappers.lookup n.simple.text).isSome := by
      simp [isPrimitive, bare, wrapper?]
    rw [found, simple, List.lookup_isSome_iff, List.mem_map]
    simp only [beq_iff_eq, eq_comm (a := n.simple.text)]
  · have plain : ∀ s ∈ wrappers.map (·.1), '.' ∉ s.toList := by decide
    have dot : '.' ∈ n.text.toList := by
      simp [text, dotted_concat bare]
    rw [isPrimitive_of_packaged bare]
    constructor
    · exact fun among => absurd dot (plain n.text among)
    · intro primitive
      cases primitive

theorem isClassText_text_iff {n : QualifiedName} :
    IsClassText n.text ↔ n.rank = 0 ∧ n.isPrimitive = false := by
  constructor
  · rintro ⟨path, other⟩
    have flat := isPath_text_iff.1 path
    rw [text_mem_wrappers_iff flat, Bool.not_eq_true] at other
    exact ⟨flat, other⟩
  · rintro ⟨flat, other⟩
    refine ⟨isPath_text_iff.2 flat, ?_⟩
    simp [text_mem_wrappers_iff flat, other]

theorem isClassText_of_packaged {n : QualifiedName} (flat : n.rank = 0) (packaged : n.scope ≠ []) :
    IsClassText n.text :=
  isClassText_text_iff.2 ⟨flat, isPrimitive_of_packaged packaged⟩

end QualifiedName

/-- The name of the declaration may be that of a class, and what its header declares and its source
file is named after is the last identifier of it. -/
structure Declaration.BearsClassName (d : Declaration) : Prop where
  name : QualifiedName.IsClassText d.name.text
  header : ∃ supers, (supers = "" ∨ ∃ more, supers = " " ++ more) ∧
    Source.header d =
      d.visibility.keyword ++ d.kind.keyword ++ " " ++ d.name.simple.text ++ supers
  file : d.sourcePath =
    Text.join "/" (d.name.scope.map (·.text) ++ [d.name.simple.text ++ ".java"])

theorem Source.parents_cases (word : String) (types : List TypeExpr) :
    parents word types = "" ∨ ∃ more, parents word types = " " ++ more := by
  unfold parents
  split
  · exact .inl rfl
  · exact .inr ⟨_, by simp only [String.append_assoc]; rfl⟩

theorem Declaration.bearsClassName_iff {d : Declaration} :
    d.BearsClassName ↔ QualifiedName.IsClassText d.name.text := by
  constructor
  · exact fun bears => bears.name
  · intro named
    have short : d.name.shortText = d.name.simple.text := by
      rw [QualifiedName.shortText, QualifiedName.isPath_text_iff.1 named.path]
      exact String.append_empty
    refine ⟨named, ?_, by rw [sourcePath, short]⟩
    rw [Source.header, short]
    cases d.kind with
    | interfaceType => exact ⟨_, Source.parents_cases _ _, rfl⟩
    | classType =>
      refine ⟨_, ?_, rfl⟩
      rcases Source.parents_cases "extends" d.superType.toList with none | ⟨more, some⟩
      · rw [none, String.empty_append]
        exact Source.parents_cases _ _
      · rw [some, String.append_assoc]
        exact .inr ⟨_, rfl⟩

/-! ## Names that hooks leave -/

namespace Hooks

/-- Hooks that refuse nothing and leave the name of a record class as it is. -/
structure KeepName (h : Hooks) : Prop where
  field : ∀ f d c table kind, (h.field f d c table kind).2 = true
  declaration : ∀ d table,
    (h.declaration d table).2 = true ∧ (h.declaration d table).1.name = d.name

theorem exists_keepAll {α : Type} {ask : Hooks → α → α × Bool} {P : α → Prop} {hooks : List Hooks}
    (each : ∀ h ∈ hooks, ∀ a, P a → (ask h a).2 = true ∧ P (ask h a).1) {a : α} (start : P a) :
    ∃ b, keepAll ask hooks a = some b ∧ P b := by
  induction hooks generalizing a with
  | nil => exact ⟨a, rfl, start⟩
  | cons h hs ih =>
    rw [List.forall_mem_cons] at each
    obtain ⟨kept, known⟩ := each.1 a start
    obtain ⟨b, rest, last⟩ := ih each.2 known
    refine ⟨b, ?_, last⟩
    rw [keepAll, ← rest]
    rcases made : ask h a with ⟨c, answer⟩
    rw [made] at kept
    dsimp only at kept
    subst kept
    rfl

/-- Every table gets a record class, which goes by the name of the record type. -/
theorem exists_record {hooks : List Hooks} (keep : ∀ h ∈ hooks, h.KeepName) (table : Table) :
    ∃ d, record hooks table = some d ∧ d.name = table.recordType.name := by
  have whole : (properties hooks table).name = table.recordType.name := by
    have each : ∀ d c, (addColumn hooks table d c).name = d.name := by
      intro d c
      unfold addColumn
      split <;> rfl
    rw [properties]
    refine List.foldlRecOn table.columns _
      (motive := fun d : Declaration => d.name = table.recordType.name) rfl ?_
    intro d named c _
    rw [each, named]
  refine exists_keepAll ?_ whole
  intro h member d named
  obtain ⟨kept, same⟩ := (keep h member).declaration d table
  exact ⟨kept, same.trans named⟩

theorem names_records {hooks : List Hooks} (keep : ∀ h ∈ hooks, h.KeepName) (recordProject : String)
    (tables : List Table) :
    (records hooks recordProject tables).map (·.declaration.name) =
      tables.map (·.recordType.name) := by
  induction tables with
  | nil => rfl
  | cons table tables ih =>
    obtain ⟨d, made, named⟩ := exists_record keep table
    rw [records] at ih ⊢
    rw [List.filterMap_cons, made, Option.map_some, List.map_cons, ih, List.map_cons, named]

end Hooks

theorem BuiltIn.keepName (b : BuiltIn) : b.hooks.KeepName := by
  cases b with
  | domain s =>
    refine ⟨fun _ _ _ _ _ => rfl, fun d table => ⟨rfl, ?_⟩⟩
    show (d.finished s table.columns).name = d.name
    rw [Declaration.finished, (Declaration.name_decorated _ s table.columns).1,
      Declaration.stripMarker_eq]
  | service s => exact ⟨fun _ _ _ _ _ => rfl, fun _ _ => ⟨rfl, rfl⟩⟩
  | inert name => exact ⟨fun _ _ _ _ _ => rfl, fun _ _ => ⟨rfl, rfl⟩⟩

/-- Service artifacts lie in packages and go by the names of classes. -/
theorem Service.bearsClassName_of_mem_built {table : Table} {s : ServiceSettings} {d : Declaration}
    (member : d ∈ built table s) : d.BearsClassName ∧ d.name.scope ≠ [] := by
  obtain ⟨package, basic, -, -, -, made⟩ := built_of_ne_nil (List.ne_nil_of_mem member)
  have named : d.name = interfaceName package table.recordType.name ∨
      d.name = implementationName package table.recordType.name := by
    rw [made, builtIn, List.mem_cons] at member
    rcases member with rfl | behind
    · exact .inl rfl
    · rw [Option.mem_toList, Option.map_eq_some_iff] at behind
      obtain ⟨impl, -, rfl⟩ := behind
      exact .inr rfl
  have packaged : d.name.scope ≠ [] := by
    rcases named with interface | implementation
    · rw [interface]
      exact package.segments_ne_nil
    · rw [implementation]
      exact PackagePath.segments_ne_nil _
  have flat : d.name.rank = 0 := by
    rcases named with interface | implementation
    · rw [interface]
      rfl
    · rw [implementation]
      rfl
  exact ⟨Declaration.bearsClassName_iff.2 (QualifiedName.isClassText_of_packaged flat packaged),
    packaged⟩

theorem Hooks.bearsClassName_of_mem_allExtras {bs : List BuiltIn} {tables : List Table}
    {a : Artifact} (member : a ∈ allExtras (ofActive bs) tables) :
    a.declaration.BearsClassName ∧ a.declaration.name.scope ≠ [] := by
  obtain ⟨table, -, added⟩ := List.mem_flatMap.1 member
  obtain ⟨h, among, own⟩ := List.mem_flatMap.1 added
  obtain ⟨b, -, rfl⟩ := List.mem_map.1 (List.mem_of_mem_filter among)
  cases b with
  | domain s => cases own
  | service s =>
    simp only [BuiltIn.hooks, service] at own
    split at own
    · cases own
    · obtain ⟨d, built, rfl⟩ := List.mem_map.1 own
      exact Service.bearsClassName_of_mem_built built
  | inert name => cases own

/-! ## What a pass declares -/

namespace Pass

/-- A pass declares what a schema tells it to. In a run of the built-in plugins, in any number and
order, every table has its record class, which goes by the name of its record type, and every
service artifact goes by the name of a class in a package. So all that is declared goes by names
that classes may have, with headers and source files to match, exactly if no record type is an array
or a primitive type. -/
theorem run_gives_classNames_iff {m : Type → Type} [Monad m] [LawfulMonad m] [MonadJournal m]
    (recordProject : String) (bs : List BuiltIn) (tables : List Table) :
    ∃ records services : List Artifact,
      Gives (parts (ofBuiltIns recordProject bs : Pass m) tables) (records, services, []) ∧
      Gives (run (ofBuiltIns recordProject bs : Pass m) tables)
        { artifacts := records ++ services, warnings := [] } ∧
      records.map (·.declaration.name) = tables.map (·.recordType.name) ∧
      (∀ a ∈ services, a.declaration.BearsClassName ∧ a.declaration.name.scope ≠ []) ∧
      ((∀ a ∈ records ++ services, a.declaration.BearsClassName) ↔
        ∀ table ∈ tables, table.recordType.name.rank = 0 ∧
          table.recordType.name.isPrimitive = false) := by
  have keep : ∀ h ∈ Hooks.ofActive bs, h.KeepName := by
    intro h member
    obtain ⟨b, -, rfl⟩ := List.mem_map.1 (List.mem_of_mem_filter member)
    exact b.keepName
  have names := Hooks.names_records keep recordProject tables
  have services : ∀ a ∈ Hooks.allExtras (Hooks.ofActive bs) tables,
      a.declaration.BearsClassName ∧ a.declaration.name.scope ≠ [] :=
    fun a => Hooks.bearsClassName_of_mem_allExtras
  refine ⟨_, _, gives_ofBuiltIns recordProject bs tables,
    gives_run_ofBuiltIns recordProject bs tables, names, services, ?_⟩
  have records : (∀ n ∈ (Hooks.records (Hooks.ofActive bs) recordProject tables).map
        (·.declaration.name), QualifiedName.IsClassText n.text) ↔
      ∀ table ∈ tables, table.recordType.name.rank = 0 ∧
        table.recordType.name.isPrimitive = false := by
    rw [names, List.forall_mem_map]
    simp only [QualifiedName.isClassText_text_iff]
  rw [List.forall_mem_append, ← records, List.forall_mem_map]
  simp only [Declaration.bearsClassName_iff]
  constructor
  · exact And.left
  · exact fun all => ⟨all, fun a member => (services a member).1.name⟩

/-- A record class in no package, and service artifacts that are. -/
theorem run_gives_classNames_iff_person :
    let named := fun (segment simple : Identifier) =>
      TypeExpr.ofName { scope := [segment], simple }
    let table : Table :=
      { name := "PERSON", recordType := .ofName { scope := [], simple := ⟨"Person", by decide⟩ } }
    let services : ServiceSettings :=
      { targetProject := some "out"
        targetPackage := some { segments := [⟨"app", by decide⟩] }
        basicService := some (named ⟨"base", by decide⟩ ⟨"Basic", by decide⟩)
        basicServiceImpl := some (named ⟨"base", by decide⟩ ⟨"BasicImpl", by decide⟩) }
    let pass : Pass Id := ofBuiltIns "in" [.service services, .domain { serializable := true }]
    (∀ a ∈ (run pass [table]).artifacts, a.declaration.BearsClassName) ∧
      (run pass [table]).artifacts.map (·.declaration.name.text) =
        ["Person", "app.PersonService", "app.impl.PersonServiceImpl"] := by
  intro named table services pass
  obtain ⟨records, extras, -, ⟨journal, given⟩, -, -, bears⟩ := run_gives_classNames_iff (m := Id)
    "in" [.service services, .domain { serializable := true }] [table]
  refine ⟨?_, by decide⟩
  rw [show run pass [table] = { artifacts := records ++ extras, warnings := [] } from given]
  exact bears.2 (by decide)

/-- A schema that is loaded may ask for a class by the name of a primitive type, and for one by that
of an array. A pass declares both. -/
theorem run_declares_array :
    let source := "\x7b\"tables\":[\x7b\"name\":\"flags\",\"recordType\":\"int\"\x7d," ++
      "\x7b\"name\":\"users\",\"recordType\":\"a.User[]\"\x7d]\x7d"
    let int : TypeExpr := .ofName { scope := [], simple := ⟨"int", by decide⟩ }
    let users : TypeExpr :=
      .ofName { scope := [⟨"a", by decide⟩], simple := ⟨"User", by decide⟩, rank := 1 }
    let schema : Schema :=
      { tables :=
          [{ name := "flags", recordType := int }, { name := "users", recordType := users }] }
    let made := (run (ofBuiltIns "out" [.domain {}] : Pass Id) schema.tables).artifacts.map
      (·.declaration)
    Schema.parse .json source = .ok schema ∧
      made.map (fun d => (Source.header d, d.sourcePath)) =
        [("public class int", "int.java"), ("public class User[]", "a/User[].java")] ∧
      ∀ d ∈ made, ¬d.BearsClassName := by
  intro source int users schema made
  let document : Json := .object [("tables", .array [
    .object [("name", .text "flags"), ("recordType", .text "int")],
    .object [("name", .text "users"), ("recordType", .text "a.User[]")]])]
  have spelled : Json.parse? source = some document := by
    unfold source
    cbv
  have loaded : Schema.load? document = some schema := by cbv
  refine ⟨?_, by decide, ?_⟩
  · rw [Schema.parse_json_eq_ok_iff, spelled, Option.bind_some, loaded]
  · have names : made.map (·.name) = [int.name, users.name] := by decide
    have refused : ∀ n ∈ made.map (·.name), ¬QualifiedName.IsClassText n.text := by
      rw [names]
      simp only [QualifiedName.isClassText_text_iff]
      decide
    intro d member
    rw [Declaration.bearsClassName_iff]
    exact refused _ (List.mem_map_of_mem member)

end Pass

end RecordSynth
