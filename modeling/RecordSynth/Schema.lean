import RecordSynth.DocumentFormat
import RecordSynth.Fields
import RecordSynth.Json.Reader
import RecordSynth.Table
import RecordSynth.TypeExpr.Reader
import RecordSynth.Yaml.Decoding
/-!
# Schema documents

A schema as a document of either format: an object with the tables, each an object with its columns.
JSON is read and written in agreement, so a schema survives being saved; YAML has the same records,
and an empty document of it is a schema without tables.
-/

namespace RecordSynth

/-! ## JSON -/

/-- The type that a text names. -/
def TypeExpr.ofText? (s : String) : Option TypeExpr := (TypeExpr.parse s).toOption

namespace Column

/-- The column as a JSON value. -/
def toJson (c : Column) : Json :=
  .object [("name", .text c.name), ("property", .text c.property), ("javaType", .text c.type.text)]

/-- Reads a column. A missing property is empty. -/
def ofJson? (j : Json) : Option Column := do
  match ← j.fields? ["name", "property", "javaType"] with
  | [some name, property, some type] =>
    some {
      name := ← name.text?
      property := ← (property.getD (.text "")).text?
      type := ← (← type.text?) |> TypeExpr.ofText? }
  | _ => none

end Column

namespace Table

/-- The table as a JSON value. -/
def toJson (t : Table) : Json :=
  .object [("name", .text t.name), ("recordType", .text t.recordType.text),
    ("generatedKey", .ofText? t.generatedKey), ("clientPackage", .ofText? t.clientPackage),
    ("columns", .array (t.columns.map (·.toJson)))]

/-- Reads a table. -/
def ofJson? (j : Json) : Option Table := do
  match ← j.fields? ["name", "recordType", "generatedKey", "clientPackage", "columns"] with
  | [some name, some recordType, generatedKey, clientPackage, columns] =>
    some {
      name := ← name.text?
      recordType := ← (← recordType.text?) |> TypeExpr.ofText?
      generatedKey := ← (generatedKey.getD .null).optionalText?
      clientPackage := ← (clientPackage.getD .null).optionalText?
      columns := ← (← (columns.getD (.array [])).items?).mapM Column.ofJson? }
  | _ => none

end Table

namespace Schema

/-- The schema as a JSON value. -/
def toJson (s : Schema) : Json := .object [("tables", .array (s.tables.map (·.toJson)))]

/-- Reads a schema as it is written. -/
def ofJson? (j : Json) : Option Schema := do
  match ← j.fields? ["tables"] with
  | [tables] => some { tables := ← (← (tables.getD (.array [])).items?).mapM Table.ofJson? }
  | _ => none

/-- Loads a schema from a JSON value, filling in properties. -/
def load? (j : Json) : Option Schema := (ofJson? j).map (·.normalize)

/-- Reads a schema from a JSON document. -/
def parseJson (source : String) : Except Error Schema :=
  match Json.parse? source with
  | none => .error (.decode "the document is not JSON")
  | some j =>
    match load? j with
    | some s => .ok s
    | none => .error (.decode "the document is not a schema")

end Schema

/-! ## YAML -/

section

open Yaml (Node Decoding)
open Yaml.Decoding

/-- Reads a type. -/
def TypeExpr.ofYaml (n : Node) : Decoding TypeExpr := do
  get (TypeExpr.ofText? (← Yaml.Decoding.text n))

/-- Reads a column. A missing property is empty. -/
def Column.ofYaml (n : Node) : Decoding Column := do
  match ← fields ["name", "property", "javaType"] n with
  | [some name, property, some type] =>
    return {
      name := ← text name
      property := ← text (property.getD .empty)
      type := ← TypeExpr.ofYaml type }
  | _ => refuse

/-- Reads a table. -/
def Table.ofYaml (n : Node) : Decoding Table := do
  match ← fields ["name", "recordType", "generatedKey", "clientPackage", "columns"] n with
  | [some name, some recordType, generatedKey, clientPackage, columns] =>
    return {
      name := ← text name
      recordType := ← TypeExpr.ofYaml recordType
      generatedKey := ← optional text (generatedKey.getD .empty)
      clientPackage := ← optional text (clientPackage.getD .empty)
      columns := ← (← items (columns.getD .empty)).mapM Column.ofYaml }
  | _ => refuse

namespace Schema

/-- Reads a schema as it is written. -/
def ofYaml (n : Node) : Decoding Schema := do
  match ← fields ["tables"] n with
  | [tables] => return { tables := ← (← items (tables.getD .empty)).mapM Table.ofYaml }
  | _ => refuse

/-- Reads a schema from a YAML document, filling in properties. -/
def parseYaml (source : String) : Except Error Schema :=
  match run? source { tables := [] } ofYaml with
  | none => .error (.decode "the document is not a schema")
  | some s => .ok s.normalize

end Schema

end

/-- Reads a schema from a document. -/
def Schema.parse (format : DocumentFormat) (source : String) : Except Error Schema :=
  match format with
  | .yaml => parseYaml source
  | .json => parseJson source

end RecordSynth
