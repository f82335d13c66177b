import RecordSynth.Plugin
/-!
# The generation pass

A pass builds the record class of each table, lets every plugin change it, and collects what the
plugins add. Each plugin is asked once whether it takes part, and may warn; the warnings go from one
to the next. A field or a class that a plugin refuses is dropped, and the plugins behind it are not
asked; what plugins add for a table is collected from all of them, whatever became of its record
class. Record classes come first in the output, in the order of their tables, and what the plugins
added follows.
-/

namespace RecordSynth

/-- The project of record classes, unless another is given. -/
def defaultRecordProject : String := "src/main/java"

/-- A run in preparation: its plugins in order, and the project of its record classes. -/
structure Pass (m : Type → Type) where
  plugins : List (Plugin m) := []
  recordProject : String := defaultRecordProject

/-- What a run makes. -/
structure PassOutput where
  /-- Record classes in the order of tables, then what the plugins added. -/
  artifacts : List Artifact := []
  /-- The warnings that the plugins left. -/
  warnings : List String := []
deriving Repr

namespace Record

/-- The field of a column, as the table mapper makes it. -/
def field (c : Column) : Field :=
  { name := c.property, type := c.type, annotations := [generatorMarker] }

/-- The method that reads the property of a column. -/
def getter (c : Column) : Method where
  name := "get" ++ Text.upperCamel c.property
  returnType := some c.type
  bodyLines := ["return " ++ c.property ++ ";"]
  annotations := [generatorMarker]
  visibility := .publicAccess

/-- The method that changes the property of a column. -/
def setter (c : Column) : Method where
  name := "set" ++ Text.upperCamel c.property
  parameters := [{ name := c.property, type := c.type }]
  bodyLines := ["this." ++ c.property ++ " = " ++ c.property ++ ";"]
  annotations := [generatorMarker]
  visibility := .publicAccess

/-- The record class of a table before it has fields. -/
def empty (table : Table) : Declaration :=
  let d : Declaration :=
    { name := table.recordType.name, kind := .classType, visibility := .publicAccess }
  d.addImport generatedType

/-- The record class with the field of a column and its methods. -/
def addProperty (d : Declaration) (c : Column) (f : Field) : Declaration :=
  (((d.addImport f.type).addMethod (getter c)).addMethod (setter c)).addField f

end Record

namespace Pass

variable {m : Type → Type} [Monad m]

/-- Asks each plugin about a field, up to the first that refuses it. -/
def askField (d : Declaration) (c : Column) (table : Table) :
    List (Plugin m) → Field → m (Field × Bool)
  | [], f => pure (f, true)
  | p :: ps, f => do
    match ← p.fieldCreated f d c table .baseRecord with
    | (f, true) => askField d c table ps f
    | (f, false) => return (f, false)

/-- Asks each plugin about a record class, up to the first that refuses it. -/
def askDeclaration (table : Table) : List (Plugin m) → Declaration → m (Declaration × Bool)
  | [], d => pure (d, true)
  | p :: ps, d => do
    match ← p.declarationCreated d table with
    | (d, true) => askDeclaration table ps d
    | (d, false) => return (d, false)

/-- What each plugin adds for a table. -/
def collect (table : Table) : List (Plugin m) → m (List Artifact)
  | [] => pure []
  | p :: ps => do
    let own ← p.additionalArtifacts table
    return own ++ (← collect table ps)

variable [MonadJournal m]

/-- The record class with the properties of columns that no plugin refuses. -/
def buildFields (plugins : List (Plugin m)) (table : Table) :
    List Column → Declaration → m Declaration
  | [], d => pure d
  | c :: cs, d => do
    match ← askField d c table plugins (Record.field c) with
    | (f, true) => buildFields plugins table cs (Record.addProperty d c f)
    | (f, false) =>
      note .debug ("table '" ++ table.name ++ "': field '" ++ f.name ++ "' dropped by a plugin")
      buildFields plugins table cs d

/-- The record class of a table, unless a plugin refuses it. -/
def buildRecord (plugins : List (Plugin m)) (table : Table) : m (Option Declaration) := do
  let d ← buildFields plugins table table.columns (Record.empty table)
  match ← askDeclaration table plugins d with
  | (d, true) => return some d
  | (_, false) =>
    note .debug ("table '" ++ table.name ++ "': record class dropped by a plugin")
    return none

/-- The record classes of tables, and what the plugins add for them. -/
def buildTables (plugins : List (Plugin m)) (recordProject : String) :
    List Table → m (List Artifact × List Artifact)
  | [] => pure ([], [])
  | table :: tables => do
    let record ← buildRecord plugins table
    let own ← collect table plugins
    let (records, extras) ← buildTables plugins recordProject tables
    let records :=
      match record with
      | some declaration => { declaration, targetProject := recordProject } :: records
      | none => records
    return (records, own ++ extras)

/-- Asks each plugin whether it takes part: those that do, and the warnings that the last one
leaves. -/
def validate : List (Plugin m) → List String → m (List (Plugin m) × List String)
  | [], warnings => pure ([], warnings)
  | p :: ps, warnings => do
    let (active, warnings) ← p.validate warnings
    if !active then note .info ("plugin '" ++ p.name ++ "' excluded from this run")
    let (others, warnings) ← validate ps warnings
    return (if active then p :: others else others, warnings)

/-- Notes each warning. -/
def noteWarnings : List String → m Unit
  | [] => pure ()
  | w :: ws => do
    note .warn w
    noteWarnings ws

/-- Runs a pass over tables. -/
def run (pass : Pass m) (tables : List Table) : m PassOutput := do
  let (active, warnings) ← validate pass.plugins []
  noteWarnings warnings
  let (records, extras) ← buildTables active pass.recordProject tables
  note .debug (toString tables.length ++ " table(s): " ++ toString records.length ++
    " record class(es), " ++ toString extras.length ++ " plugin artifact(s)")
  return { artifacts := records ++ extras, warnings }

end Pass

end RecordSynth
