import RecordSynth.TypeExpr
/-!
# What a type stands for

The kinds of values that columns hold, as far as decoration tells them apart. Dates, times and texts
are known by their simple name alone; a wrapper of a primitive only if it is not in a package of its
own.
-/

namespace RecordSynth

/-- The kind of value that a type holds. -/
inductive Meaning where
  /-- A primitive value or its wrapper. -/
  | scalar
  /-- Text. -/
  | text
  /-- A calendar date. -/
  | date
  /-- A date with a time of day. -/
  | dateTime
  | other
deriving DecidableEq, Repr

/-- The name of a kind. -/
def Meaning.label : Meaning → String
  | .scalar => "scalar"
  | .text => "string"
  | .date => "date"
  | .dateTime => "date-time"
  | .other => "other"

/-- The pattern in which values of a temporal kind are written. -/
def Meaning.datePattern? : Meaning → Option String
  | .date => some "yyyy-MM-dd"
  | .dateTime => some "yyyy-MM-dd HH:mm:ss"
  | _ => none

/-- Whether a kind is a date, with or without a time. -/
def Meaning.isTemporal (k : Meaning) : Bool := k.datePattern?.isSome

/-- The simple names of the wrappers that count as scalars. -/
def scalarWrappers : List String :=
  ["Boolean", "Byte", "Character", "Short", "Integer", "Long", "Float", "Double"]

/-- The kind of value that a type of this name holds. -/
def QualifiedName.meaning (n : QualifiedName) : Meaning :=
  if n.isPrimitive then .scalar
  else if n.shortText = "LocalDate" then .date
  else if n.shortText = "LocalDateTime" then .dateTime
  else if n.shortText = "String" then .text
  else if n.shortText ∈ scalarWrappers ∧ n.needsImport = false then .scalar
  else .other

/-- The kind of value that a type holds. -/
def TypeExpr.meaning (t : TypeExpr) : Meaning := t.name.meaning

end RecordSynth
