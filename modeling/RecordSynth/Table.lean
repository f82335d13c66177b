import RecordSynth.PackagePath
import RecordSynth.Text.CamelCase
import RecordSynth.TypeExpr.Meaning
/-!
# Tables

What the generator knows of a database table: its columns with the properties and types they map
to, the record type that holds a row, and the column whose value the database makes up.
-/

namespace RecordSynth

/-- A column, and the property that holds its value. -/
structure Column where
  name : String
  property : String
  type : TypeExpr
deriving DecidableEq, Repr

/-- The column whose property is spelled after it. -/
def Column.derive (name : String) (type : TypeExpr) : Column :=
  { name, property := Text.lowerCamel name, type }

/-- The column with its property spelled after it, unless it has one that is not blank. -/
def Column.normalize (c : Column) : Column :=
  if Text.allBlank c.property then { c with property := Text.lowerCamel c.name } else c

/-- The kind of value that a column holds. -/
def Column.meaning (c : Column) : Meaning := c.type.meaning

/-- A table. -/
structure Table where
  name : String
  recordType : TypeExpr
  /-- The name of the column whose value the database makes up. -/
  generatedKey : Option String := none
  /-- The package of the clients of the table. -/
  clientPackage : Option String := none
  columns : List Column := []
deriving DecidableEq, Repr

/-- The property that a generated key is known by, and its type. -/
structure Key where
  property : String
  type : TypeExpr
deriving DecidableEq, Repr

namespace Table

/-- The first column of a name, the case of ASCII letters aside. -/
def column? (t : Table) (name : String) : Option Column :=
  t.columns.find? fun c => Text.equalIgnoringCase c.name name

/-- The simple name of the record type. -/
def recordName (t : Table) : String := t.recordType.name.shortText

/-- Whether some column holds a date. -/
def hasTemporalColumn (t : Table) : Bool := t.columns.any (·.meaning.isTemporal)

/-- The generated key, if the table has one among its columns. -/
def key? (t : Table) : Option Key := do
  let c ← t.column? (← t.generatedKey)
  some { property := c.property, type := c.type }

/-- The package of the dynamic statements of the table, if it has a package of clients. -/
def dynamicStatements (t : Table) : Except Error (Option PackagePath) :=
  match t.clientPackage with
  | none => .ok none
  | some p => (some ·.dynamicStatements) <$> PackagePath.parse p

/-- The table with the properties of its columns filled in. -/
def normalize (t : Table) : Table := { t with columns := t.columns.map (·.normalize) }

end Table

/-- The tables of a schema, in order. -/
structure Schema where
  tables : List Table := []
deriving DecidableEq, Repr

/-- The schema with the properties of all columns filled in. -/
def Schema.normalize (s : Schema) : Schema := { s with tables := s.tables.map (·.normalize) }

end RecordSynth
