/-!
# Errors

What can go wrong in a run, and the one place where each is put into words.
-/

namespace RecordSynth

/-- The ways in which a run or one of its steps is refused. -/
inductive Error where
  /-- A text that names no type. -/
  | invalidType (text : String)
  /-- A text that names no package. -/
  | invalidPackage (text : String)
  /-- A schema or settings document that cannot be decoded. -/
  | decode (reason : String)
  /-- A file that could not be written. -/
  | storage (reason : String)
  /-- Any other refusal of the library. -/
  | general (reason : String)
  /-- A command that could not use what it was given. -/
  | operation (reason : String)
  /-- A text that should have set a property. -/
  | assignment (text : String)
deriving DecidableEq, Repr

/-- The wording of an error. -/
def Error.message : Error → String
  | .invalidType text => "Invalid Type: " ++ text
  | .invalidPackage text => "Invalid Package: " ++ text
  | .decode reason => "Decode Error: " ++ reason
  | .storage reason => "IO Error: " ++ reason
  | .general reason => "General Error: " ++ reason
  | .operation reason => "Operation failed: " ++ reason
  | .assignment text => "invalid KEY=value: no `=` found in `" ++ text ++ "`"

end RecordSynth
