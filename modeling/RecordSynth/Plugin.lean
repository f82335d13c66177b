import RecordSynth.Declaration.Decoration
import RecordSynth.Declaration.Markers
import RecordSynth.Service
/-!
# Plugins

A plugin takes part in a run through four hooks, all of which may have effects in the monad of the
run: it says once whether it takes part, it may change or refuse each field and each record class,
and it may add artifacts of its own for each table. Two plugins come with the generator: one cleans
record classes of generator markers and decorates them and their fields, the other adds the service
artifacts of each table.
-/

namespace RecordSynth

/-- The kinds of record classes that a field may be made for. -/
inductive RecordKind where
  /-- The class that holds every column of the table. -/
  | baseRecord
  | primaryKey
  | recordWithBlobs
deriving DecidableEq, Repr

/-- A declaration and the project that receives its source. -/
structure Artifact where
  declaration : Declaration
  targetProject : String
deriving Repr

/-- A participant of a run. -/
structure Plugin (m : Type → Type) where
  name : String
  /-- Asked once, before any table, with the warnings so far: whether the plugin takes part, and the
  warnings as it leaves them. -/
  validate : List String → m (Bool × List String)
  /-- Asked for each field, with the declaration as it is so far: the field as the plugin wants it,
  and whether it is kept. -/
  fieldCreated : Field → Declaration → Column → Table → RecordKind → m (Field × Bool)
  /-- Asked for each record class: the class as the plugin wants it, and whether it is kept. -/
  declarationCreated : Declaration → Table → m (Declaration × Bool)
  /-- Asked for each table: what the plugin adds to it. -/
  additionalArtifacts : Table → m (List Artifact)

namespace Plugin

variable {m : Type → Type} [Monad m]

/-- A plugin that takes part and leaves everything as it is. -/
def inert (name : String) : Plugin m where
  name
  validate warnings := pure (true, warnings)
  fieldCreated f _ _ _ _ := pure (f, true)
  declarationCreated d _ := pure (d, true)
  additionalArtifacts _ := pure []

variable [MonadJournal m]

/-- The plugin that cleans and decorates record classes. -/
def domain (s : DomainSettings) : Plugin m :=
  { inert "domain" with
    fieldCreated := fun f _ c _ _ => do return (← f.decorate c s, true)
    declarationCreated := fun d table => do
      let d ← d.stripGenerator
      return (← d.decorate table.columns s, true) }

/-- The plugin that adds service artifacts, unless it is disabled. -/
def service (s : ServiceSettings) : Plugin m :=
  { inert "service" with
    validate := fun warnings => do
      if s.disable then note .info "service plugin disabled"
      return (!s.disable, warnings)
    additionalArtifacts := fun table => do
      match s.targetProject with
      | none => return []
      | some project =>
        let ds ← Service.artifacts table s
        note .debug ("table '" ++ table.name ++ "': " ++ toString ds.length ++
          " service artifact(s)")
        return ds.map fun declaration => { declaration, targetProject := project } }

end Plugin

end RecordSynth
