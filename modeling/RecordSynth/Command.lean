import RecordSynth.Declaration.Source
import RecordSynth.Dump
import RecordSynth.FileTree
import RecordSynth.Json.Writer
import RecordSynth.Schema
import RecordSynth.Settings.Run
import RecordSynth.Text.Quoted
import RecordSynth.Yaml.Writer
/-!
# Commands

The two commands: one generates the sources of a schema, the other shows what it would generate as a
document. Both first load the schema, then the settings, and fail before anything is written if
either cannot be used. They are written for any host, so a run can be real, recorded or made to
fail.
-/

namespace RecordSynth

/-- The surroundings of a command. -/
structure Host (m : Type → Type) where
  /-- The text of the file at a path. -/
  read : String → m (Except ReadFault String)
  /-- Writes a file, with the directories above it. -/
  write : String → String → m (Except Error Unit)
  /-- Prints a line. -/
  print : String → m Unit

variable {m : Type → Type} [Monad m]

/-! ## Inputs -/

/-- What both commands are given. -/
structure Inputs where
  /-- The path of the schema. -/
  schema : String
  /-- The path of the settings document. -/
  config : Option String := none
  /-- Assignments to properties of the service plugin. -/
  serviceProperties : List (String × String) := []
  /-- Assignments to properties of the domain plugin. -/
  domainProperties : List (String × String) := []
deriving DecidableEq, Repr

/-- Reads a document. -/
def Host.readDocument (h : Host m) (path : String) : ExceptT Error m String := do
  match ← (h.read path : m (Except ReadFault String)) with
  | .ok source => return source
  | .error fault =>
    throw (.operation ("Failed to read " ++ Text.quoted path ++ ": " ++ fault.message))

namespace Inputs

/-- Loads the schema. -/
def loadSchema (i : Inputs) (h : Host m) : ExceptT Error m Schema := do
  ExceptT.mk (pure (Schema.parse (.ofPath i.schema) (← h.readDocument i.schema)))

/-- Loads the settings, those assigned last. -/
def loadSettings (i : Inputs) (h : Host m) : ExceptT Error m RunSettings := do
  let settings ← match i.config with
    | none => pure {}
    | some path => ExceptT.mk (pure (RunSettings.parse (.ofPath path) (← h.readDocument path)))
  return settings.assign i.serviceProperties i.domainProperties

end Inputs

/-- The pass of settings: record classes are cleaned up before services are made for them. -/
def RunSettings.pass [MonadJournal m] (s : RunSettings) : Except Error (Pass m) := do
  let service ← ServiceSettings.ofProperties s.service
  return {
    plugins := [.domain (.ofProperties s.domain), .service service]
    recordProject := s.recordProject }

/-- Loads the settings and makes the pass of them. -/
def Inputs.loadPass [MonadJournal m] (i : Inputs) (h : Host m) : ExceptT Error m (Pass m) := do
  ExceptT.mk (pure (← i.loadSettings h).pass)

/-! ## Generating -/

/-- What the generating command is given. -/
structure GenerateRequest where
  inputs : Inputs
  /-- The directory that projects are seen from. -/
  out : String := "."
  /-- Whether paths are only listed. -/
  dryRun : Bool := false
deriving DecidableEq, Repr

/-- The path of the source file of an artifact. -/
def Artifact.path (out : String) (a : Artifact) : String :=
  Path.join (Path.join out a.targetProject) a.declaration.sourcePath

/-- The source files of an output: paths and contents, in order. -/
def PassOutput.files (out : String) (o : PassOutput) : List (String × String) :=
  o.artifacts.map fun a => (a.path out, a.declaration.source)

/-- Writes files one after another, up to the first one that cannot be written. -/
def Host.writeAll (h : Host m) : List (String × String) → ExceptT Error m Unit
  | [] => pure ()
  | (path, content) :: files => do
    ExceptT.mk (h.write path content)
    h.writeAll files

/-- Prints lines. -/
def Host.printAll (h : Host m) : List String → m Unit
  | [] => pure ()
  | line :: lines => do
    h.print line
    h.printAll lines

namespace GenerateRequest

variable [MonadJournal m]

/-- The line printed before anything is generated. -/
def heading (tables : List Table) (p : Pass m) : String :=
  "Generating from " ++ toString tables.length ++ " table(s) with plugins: " ++
    Text.join ", " (p.plugins.map (·.name))

/-- The line printed at the end. -/
def summary (r : GenerateRequest) (files : Nat) : String :=
  if r.dryRun then "Dry run: " ++ toString files ++ " file(s) not written."
  else "Generated " ++ toString files ++ " file(s) under " ++ Text.quoted r.out ++ "."

/-- Generates the sources of a schema, and gives their paths. A dry run prints the paths and writes
nothing. -/
def run (r : GenerateRequest) (h : Host m) : ExceptT Error m (List String) := do
  let schema ← r.inputs.loadSchema h
  let pass ← r.inputs.loadPass h
  h.print (heading schema.tables pass)
  let output ← pass.run schema.tables
  h.printAll (output.warnings.map ("Warning: " ++ ·))
  let files := output.files r.out
  if r.dryRun then h.printAll (files.map (·.1)) else h.writeAll files
  h.print (r.summary files.length)
  return files.map (·.1)

end GenerateRequest

/-! ## Inspecting -/

/-- What the inspecting command is given. -/
structure InspectRequest where
  inputs : Inputs
  format : DocumentFormat := .yaml
  /-- The path of the file for the dump; without it the dump is printed. -/
  output : Option String := none
deriving DecidableEq, Repr

/-- A value as a document. -/
def Json.document (format : DocumentFormat) (j : Json) : String :=
  match format with
  | .yaml => Yaml.write j
  | .json => j.pretty 0

namespace InspectRequest

variable [MonadJournal m]

/-- The dump of what a run makes. -/
def dump (r : InspectRequest) (h : Host m) : ExceptT Error m String := do
  let schema ← r.inputs.loadSchema h
  let pass ← r.inputs.loadPass h
  let output ← pass.run schema.tables
  return output.toJson.document r.format

/-- Writes or prints the dump. -/
def run (r : InspectRequest) (h : Host m) : ExceptT Error m Unit := do
  let text ← r.dump h
  match r.output with
  | none => h.print text
  | some path =>
    ExceptT.mk (h.write path text)
    h.print ("Artifact dump written to " ++ Text.quoted path)

end InspectRequest

end RecordSynth
