import RecordSynth.DocumentFormat
import RecordSynth.Fields
import RecordSynth.Pass
import RecordSynth.Properties
import RecordSynth.Yaml.Decoding
/-!
# Settings of a run

The project of the record classes and the properties of both plugins, from a document and from
assignments on the command line. The values of a section have to be scalars and become texts; null
stands for a key that is not there. An assignment takes the place of a value of the document.
-/

namespace RecordSynth

/-- The values of a section of a document, in the order of its keys. -/
abbrev Section := Keyed Json

/-- A settings document as it is written. -/
structure SettingsDocument where
  recordProject : Option String := none
  service : Section := {}
  domain : Section := {}
deriving Repr

/-- The settings of a run. -/
structure RunSettings where
  /-- The project of record classes. -/
  recordProject : String := defaultRecordProject
  service : Properties := {}
  domain : Properties := {}
deriving DecidableEq, Repr

/-! ## Sections -/

namespace Section

/-- The text of a scalar; null has none. No result at all for an array or an object. -/
def scalar? : Json → Option (Option String)
  | .null => some none
  | .text s => some (some s)
  | .bool b => some (some (if b then "true" else "false"))
  | .number n => some (some n.text)
  | .array _ | .object _ | .illFormed => none

/-- The texts of entries, or the first key with a value that is no scalar. -/
def texts : List (String × Json) → Except String (List (String × String))
  | [] => .ok []
  | (k, v) :: rest =>
    match scalar? v with
    | none => .error k
    | some none => texts rest
    | some (some s) => ((k, s) :: ·) <$> texts rest

/-- The properties of the section with a name. -/
def properties (name : String) (s : Section) : Except Error Properties :=
  match texts s.entries with
  | .ok entries => .ok (.ofList entries)
  | .error key =>
    .error (.operation ("property '" ++ name ++ "." ++ key ++ "' must be a scalar value"))

end Section

/-! ## Documents -/

namespace Json

mutual

/-- Whether all of a value can be used, with at most `depth` levels of arrays and objects. -/
def isUsable (depth : Nat) : Json → Bool
  | .null | .bool _ | .number _ | .text _ => true
  | .illFormed => false
  | .array items => 0 < depth && areUsable (depth - 1) items
  | .object members => 0 < depth && membersUsable (depth - 1) members

/-- Whether all of the items of an array can be used. -/
def areUsable (depth : Nat) : List Json → Bool
  | [] => true
  | v :: vs => isUsable depth v && areUsable depth vs

/-- Whether all of the members of an object can be used. -/
def membersUsable (depth : Nat) : List (String × Json) → Bool
  | [] => true
  | (_, v) :: ms => isUsable depth v && membersUsable depth ms

end

end Json

namespace SettingsDocument

/-- The names of the fields. -/
def fieldNames : List String := ["recordProject", "service", "domain"]

/-- The levels of arrays and objects inside a value of a section of a JSON document. -/
def jsonDepth : Nat := 125

/-- The levels of sequences and mappings inside a value of a section of a YAML document. -/
def yamlDepth : Nat := 126

/-- Reads a section. -/
def sectionOfJson? : Json → Option Section
  | .object members =>
    if members.all (·.2.isUsable jsonDepth) then some (.ofList members) else none
  | _ => none

/-- Reads settings as they are written. -/
def ofJson? (j : Json) : Option SettingsDocument := do
  match ← j.fields? fieldNames with
  | [recordProject, service, domain] =>
    some {
      recordProject := ← (recordProject.getD .null).optionalText?
      service := ← sectionOfJson? (service.getD (.object []))
      domain := ← sectionOfJson? (domain.getD (.object [])) }
  | _ => none

open Yaml (Node Decoding)
open Yaml.Decoding

/-- Reads a section. -/
def sectionOfYaml (n : Node) : Decoding Section := do
  let members ← (← entries n).mapM fun (k, v) => do pure (k, ← value yamlDepth v)
  return .ofList members

/-- Reads settings as they are written. -/
def ofYaml (n : Node) : Decoding SettingsDocument := do
  match ← fields fieldNames n with
  | [recordProject, service, domain] =>
    return {
      recordProject := ← optional text (recordProject.getD .empty)
      service := ← sectionOfYaml (service.getD .empty)
      domain := ← sectionOfYaml (domain.getD .empty) }
  | _ => refuse

/-- Reads a document. One in YAML may be empty or null. -/
def parse? (format : DocumentFormat) (source : String) : Option SettingsDocument :=
  match format with
  | .json => (Json.parse? source).bind ofJson?
  | .yaml => (run? source none (optional ofYaml)).map (·.getD {})

end SettingsDocument

/-! ## Settings -/

namespace RunSettings

/-- The settings that a document gives. A fault of the service section is reported before one of the
domain section. -/
def ofDocument (d : SettingsDocument) : Except Error RunSettings := do
  let service ← Section.properties "service" d.service
  let domain ← Section.properties "domain" d.domain
  return { recordProject := d.recordProject.getD defaultRecordProject, service, domain }

/-- Reads settings from a document. -/
def parse (format : DocumentFormat) (source : String) : Except Error RunSettings :=
  match SettingsDocument.parse? format source with
  | none => .error (.decode "the document does not hold settings")
  | some d => ofDocument d

/-- The settings with properties assigned, one after another. -/
def assign (s : RunSettings) (service domain : List (String × String)) : RunSettings :=
  { s with service := s.service.setAll service, domain := s.domain.setAll domain }

end RunSettings

/-- Reads an assignment: the key in front of the first equals sign, without the blanks around it,
and all that follows the sign. -/
def parseAssignment (s : String) : Except Error (String × String) :=
  let key := s.toList.takeWhile (· ≠ '=')
  match s.toList.drop key.length with
  | [] => .error (.assignment s)
  | _ :: value => .ok (Text.trim (String.ofList key), String.ofList value)

end RecordSynth
