import Mathlib.Data.List.Basic
import RecordSynth.Proofs.TypeExpr.RoundTrip
import RecordSynth.Schema
/-!
# Saving and reloading schemas

A schema is written with all of its fields, each once, and every type as its text; so what is read
back is what was written. What a document gives has its properties filled in already, which
reloading leaves alone: a property that the derivation leaves blank is derived again, with the same
outcome.
-/

namespace RecordSynth

/-! ## Reading what was written -/

/-- Among members of different names every field is found, and nothing else. -/
theorem field?_of_mem {α : Type} {name : String} {v : α} {members : List (String × α)}
    (distinct : (members.map Prod.fst).Nodup) (member : (name, v) ∈ members) :
    field? name members = some (some v) := by
  have alone : members.filter (·.1 == name) = [(name, v)] := by
    induction members with
    | nil => cases member
    | cons m ms ih =>
      rw [List.map_cons, List.nodup_cons] at distinct
      rcases List.mem_cons.1 member with rfl | later
      · have others : ms.filter (·.1 == name) = [] := by
          refine List.filter_eq_nil_iff.2 fun k other same => distinct.1 ?_
          exact List.mem_map.2 ⟨k, other, eq_of_beq same⟩
        simp [others]
      · have different : m.1 ≠ name := fun same =>
          distinct.1 (List.mem_map.2 ⟨(name, v), later, same.symm⟩)
        simp [different, ih distinct.2 later]
  rw [field?, alone]

/-- Reading back each of the items that were written gives them all. -/
theorem mapM_of_roundTrip {α β : Type} {write : α → β} {read : β → Option α}
    (roundTrip : ∀ a, read (write a) = some a) (as : List α) :
    (as.map write).mapM read = some as := by
  induction as with
  | nil => rfl
  | cons a as ih => simp [roundTrip, ih]

/-- The fields of an object with different keys are its values. -/
theorem Json.fields?_object (members : List (String × Json))
    (distinct : (members.map Prod.fst).Nodup) :
    (object members).fields? (members.map Prod.fst) = some (members.map fun m => some m.2) := by
  have all : ∀ ms ⊆ members,
      (ms.map Prod.fst).mapM (field? · members) = some (ms.map fun m => some m.2) := by
    intro ms within
    induction ms with
    | nil => rfl
    | cons m ms ih =>
      have first := field?_of_mem distinct (within List.mem_cons_self)
      have rest := ih (List.subset_of_cons_subset within)
      simp [first, rest]
  exact all members (List.Subset.refl members)

theorem Json.optionalText?_ofText? (s : Option String) : (ofText? s).optionalText? = some s := by
  cases s <;> rfl

theorem TypeExpr.ofText?_text (t : TypeExpr) : ofText? t.text = some t := by
  rw [ofText?, parse_text]
  rfl

theorem Column.ofJson?_toJson (c : Column) : ofJson? c.toJson = some c := by
  have read := Json.fields?_object [("name", .text c.name), ("property", .text c.property),
    ("javaType", .text c.type.text)] (by simp)
  simp only [List.map_cons, List.map_nil] at read
  simp [ofJson?, toJson, read, Json.text?, TypeExpr.ofText?_text]

theorem Table.ofJson?_toJson (t : Table) : ofJson? t.toJson = some t := by
  have read := Json.fields?_object [("name", .text t.name),
    ("recordType", .text t.recordType.text), ("generatedKey", .ofText? t.generatedKey),
    ("clientPackage", .ofText? t.clientPackage),
    ("columns", .array (t.columns.map (·.toJson)))] (by simp)
  simp only [List.map_cons, List.map_nil] at read
  simp [ofJson?, toJson, read, Json.text?, Json.items?, TypeExpr.ofText?_text,
    Json.optionalText?_ofText?, mapM_of_roundTrip Column.ofJson?_toJson]

theorem Schema.ofJson?_toJson (s : Schema) : ofJson? s.toJson = some s := by
  have read := Json.fields?_object [("tables", .array (s.tables.map (·.toJson)))] (by simp)
  simp only [List.map_cons, List.map_nil] at read
  simp [ofJson?, toJson, read, Json.items?, mapM_of_roundTrip Table.ofJson?_toJson]

/-! ## Filled-in properties -/

/-- Filling in a property twice is filling it in once. Where a name has no letters or digits the
derived property is blank too, and deriving it again gives that blank once more. -/
theorem Column.normalize_normalize (c : Column) : c.normalize.normalize = c.normalize := by
  by_cases blank : Text.allBlank c.property
  · have filled : c.normalize = { c with property := Text.lowerCamel c.name } := if_pos blank
    rw [filled, normalize]
    exact ite_self _
  · have kept : c.normalize = c := if_neg blank
    rw [kept, kept]

theorem Table.normalize_normalize (t : Table) : t.normalize.normalize = t.normalize := by
  simp [normalize, Column.normalize_normalize]

theorem Schema.normalize_normalize (s : Schema) : s.normalize.normalize = s.normalize := by
  simp [normalize, Table.normalize_normalize]

/-- Loading what was saved fills in properties and changes nothing else. -/
theorem Schema.load?_toJson (s : Schema) : load? s.toJson = some s.normalize := by
  rw [load?, ofJson?_toJson, Option.map_some]

/-- What is loaded from a value has its properties filled in. -/
theorem Schema.normalize_of_load? {j : Json} {s : Schema} (loaded : load? j = some s) :
    s.normalize = s := by
  obtain ⟨written, -, rfl⟩ := Option.map_eq_some_iff.1 loaded
  exact normalize_normalize written

/-- A JSON document is read by loading the value that it spells. -/
theorem Schema.parse_json_eq_ok_iff {source : String} {s : Schema} :
    parse .json source = .ok s ↔ (Json.parse? source).bind load? = some s := by
  rw [parse, parseJson]
  cases Json.parse? source with
  | none => simp
  | some j => cases found : load? j <;> simp [found]

/-- What is read from a document of either format has its properties filled in. -/
theorem Schema.normalize_of_parse {format : DocumentFormat} {source : String} {s : Schema}
    (loaded : parse format source = .ok s) : s.normalize = s := by
  cases format with
  | json =>
    obtain ⟨j, -, found⟩ := Option.bind_eq_some_iff.1 (parse_json_eq_ok_iff.1 loaded)
    exact normalize_of_load? found
  | yaml =>
    rw [parse, parseYaml] at loaded
    split at loaded
    · cases loaded
    · cases loaded
      exact normalize_normalize _

/-- A schema that was read from a document can be saved and reloaded: the value it is saved as
stands for the same schema, also when blank properties are filled in again. -/
theorem Schema.parse_roundTrip {format : DocumentFormat} {source : String} {s : Schema}
    (loaded : parse format source = .ok s) :
    ofJson? s.toJson = some s ∧ load? s.toJson = some s := by
  refine ⟨ofJson?_toJson s, ?_⟩
  rw [load?_toJson, normalize_of_parse loaded]

/-- A table without a key, with one column that has a blank property. It stays blank, since the name
has no letters to spell it after. -/
theorem Schema.parse_roundTrip_blank :
    let source := "\x7b\"tables\":[\x7b\"name\":\"u\",\"recordType\":\"U\",\"columns\":[" ++
      "\x7b\"name\":\"__\",\"property\":\" \",\"javaType\":\"List<V>\"\x7d]\x7d]\x7d"
    let u : TypeExpr := .ofName { scope := [], simple := ⟨"U", by decide⟩ }
    let v : TypeExpr := .ofName { scope := [], simple := ⟨"V", by decide⟩ }
    let list : TypeExpr := ⟨{ scope := [], simple := ⟨"List", by decide⟩ }, [v]⟩
    let schemaOf (property : String) : Schema :=
      { tables := [{ name := "u", recordType := u, columns := [⟨"__", property, list⟩] }] }
    let s := schemaOf ""
    parse .json source = .ok s ∧ ofJson? s.toJson = some s ∧ load? s.toJson = some s := by
  intro source u v list schemaOf s
  let document : Json := .object [("tables", .array [.object [("name", .text "u"),
    ("recordType", .text "U"), ("columns", .array [.object [("name", .text "__"),
      ("property", .text " "), ("javaType", .text "List<V>")]])]])]
  have spelled : Json.parse? source = some document := by
    unfold source
    cbv
  have read : ofJson? document = some (schemaOf " ") := by cbv
  have filled : (schemaOf " ").normalize = s := by
    have blank : Text.allBlank " " = true := by decide
    -- The table of letters is too long to be unfolded step by step.
    have bare : Text.lowerCamel "__" = "" := by decide +kernel
    simp [schemaOf, s, normalize, Table.normalize, Column.normalize, blank, bare]
  have loaded : parse .json source = .ok s := by
    rw [parse_json_eq_ok_iff, spelled, Option.bind_some, load?, read, Option.map_some, filled]
  exact ⟨loaded, parse_roundTrip loaded⟩

end RecordSynth
