import RecordSynth.Path
/-!
# Formats of documents

Schemas, settings and dumps are written in one of two formats. The extension of a file tells which.
-/

namespace RecordSynth

/-- The format of a document. -/
inductive DocumentFormat where
  | yaml
  | json
deriving DecidableEq, Repr

namespace DocumentFormat

/-- The format of the file at a path: JSON if it is called so, and YAML otherwise. -/
def ofPath (path : String) : DocumentFormat :=
  if Path.hasExtension "json" path then .json else .yaml

/-- The name of a format. -/
def label : DocumentFormat → String
  | .yaml => "yaml"
  | .json => "json"

/-- The format with a name. -/
def ofLabel? (s : String) : Option DocumentFormat := [yaml, json].find? (·.label == s)

end DocumentFormat

end RecordSynth
