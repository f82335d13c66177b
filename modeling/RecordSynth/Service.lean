import RecordSynth.Declaration
import RecordSynth.Journal
import RecordSynth.Settings.Service
import RecordSynth.Table
/-!
# Service artifacts

For a table, the interface of its service and the class that implements it. Both extend a base type
applied to the record type and the key type of the table; a table without a generated key has
`java.lang.Object` for its key type. The class lies in the package `impl` inside that of the
interface. A record type that is an array has no service, for no declaration can bear its name.
-/

namespace RecordSynth

namespace Service

/-- The key type of a table without a generated key. -/
def keyPlaceholder : TypeExpr := .ofName (.implicit ⟨"Object", by decide⟩)

/-- The annotation type behind `@Service`. -/
def annotationType : TypeExpr :=
  .ofName { scope := [.orgSegment, .springSegment, ⟨"stereotype", by decide⟩],
            simple := ⟨"Service", by decide⟩ }

/-- The type argument that stands for the key: never a primitive. -/
def keyType (table : Table) : TypeExpr :=
  match table.key? with
  | some key => key.type.base.boxed
  | none => keyPlaceholder

/-- The name of a declaration in a package, made of a record name and a suffix. -/
def nameIn (package : PackagePath) (record : QualifiedName) (suffix : Identifier) :
    Except Error QualifiedName :=
  QualifiedName.parse (package.qualify (record.shortText ++ suffix.text))

/-- A base type applied to a record type and its key type. -/
def basicOf (basic record key : TypeExpr) : TypeExpr := (basic.base.apply record).apply key

/-- The service interface of a record type. -/
def interfaceOf (package : PackagePath) (record key basic : TypeExpr) :
    Except Error Declaration := do
  let name ← nameIn package record.name ⟨"Service", by decide⟩
  let d : Declaration := { name, kind := .interfaceType, visibility := .publicAccess }
  let d := ((d.addImport basic).addImport record).addImport key
  return d.addSuperInterface (basicOf basic record key)

/-- The class that implements the service interface of a record type. -/
def implementationOf (package : PackagePath) (record key basic : TypeExpr) (service : Declaration) :
    Except Error Declaration := do
  let name ← nameIn (package.inner ⟨"impl", by decide⟩) record.name ⟨"ServiceImpl", by decide⟩
  let d : Declaration := { name, kind := .classType, visibility := .publicAccess }
  let d := (d.addImport annotationType).annotate "@Service"
  let d := ((d.addImport basic).addImport record).addImport key
  let d := { d with superType := some (basicOf basic record key) }
  return (d.addImport service.type).addSuperInterface service.type.unqualified

/-- The artifacts in a package: the interface, and the implementation if there is a base for it. -/
def artifactsIn (package : PackagePath) (table : Table) (basic : TypeExpr)
    (basicImpl : Option TypeExpr) : Except Error (List Declaration) := do
  let record := table.recordType.base
  let key := keyType table
  let service ← interfaceOf package record key basic
  match basicImpl with
  | none => return [service]
  | some impl => return [service, ← implementationOf package record key impl service]

/-- The package and the base interface of the artifacts; without a project, a package or a base
interface there are none. -/
def destination? (s : ServiceSettings) : Option PackagePath :=
  match s.targetProject with
  | none => none
  | some _ => s.targetPackage

/-- Builds the service artifacts of a table, interface first. -/
def artifacts {m : Type → Type} [Monad m] [MonadJournal m] (table : Table) (s : ServiceSettings) :
    m (List Declaration) := do
  match destination? s with
  | none =>
    note .debug ("table '" ++ table.name ++
      "': no target project/package, skipping service artifacts")
    return []
  | some package =>
    match s.basicService with
    | none => return []
    | some basic =>
      if table.key? = none then
        note .warn ("table '" ++ table.name ++ "' has no resolvable generated key; using " ++
          keyPlaceholder.text ++ " as the service key type")
      match artifactsIn package table basic s.basicServiceImpl with
      | .ok ds => return ds
      | .error e =>
        note .warn ("table '" ++ table.name ++ "': service artifacts skipped: " ++ e.message)
        return []

end Service

end RecordSynth
