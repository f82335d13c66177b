import RecordSynth.Declaration
import RecordSynth.Journal
import RecordSynth.Settings.Domain
import RecordSynth.Table
/-!
# Decoration

What a record class can do with its values. Decoration works on two levels that know nothing of each
other: the class is marked as serializable and imports the annotations of dates, and each field that
holds a date carries them.
-/

namespace RecordSynth

/-- The interface that marks a class as serializable. -/
def serializableType : TypeExpr :=
  .ofName { scope := [.javaSegment, ⟨"io", by decide⟩],
            simple := ⟨"Serializable", by decide⟩ }

/-- The annotation type that binds dates of requests. -/
def dateTimeFormatType : TypeExpr :=
  .ofName { scope := [.orgSegment, .springSegment, ⟨"format", by decide⟩, .annotationSegment],
            simple := ⟨"DateTimeFormat", by decide⟩ }

/-- The annotation that binds dates of requests in the given pattern. -/
def dateTimeFormat (pattern : String) : String :=
  "@DateTimeFormat(pattern = \"" ++ pattern ++ "\")"

/-- Whether the annotations of dates are imported: they are asked for and some column is a date. -/
def DomainSettings.importsDates (s : DomainSettings) (columns : List Column) : Bool :=
  s.dateSerialize && columns.any (·.meaning.isTemporal)

namespace Declaration

/-- The declaration marked as serializable. -/
def markSerializable (d : Declaration) : Declaration :=
  (d.addImport serializableType).addSuperInterface serializableType.unqualified

/-- The declaration with the annotations of dates imported, that of the library first. -/
def importDates (library : JsonLibrary) (d : Declaration) : Declaration :=
  let d :=
    match library.annotationName? with
    | none => d
    | some n => d.addImport (.ofName n)
  d.addImport dateTimeFormatType

/-- The declaration as the settings ask for it, where `columns` are those of its table. -/
def decorated (s : DomainSettings) (columns : List Column) (d : Declaration) : Declaration :=
  let d := if s.serializable then d.markSerializable else d
  if s.importsDates columns then d.importDates s.json else d

/-- Decorates a declaration. -/
def decorate {m : Type → Type} [Monad m] [MonadJournal m] (d : Declaration) (columns : List Column)
    (s : DomainSettings) : m Declaration := do
  if s.importsDates columns then note .debug (d.name.text ++ ": importing date format annotations")
  return d.decorated s columns

end Declaration

namespace Field

/-- The pattern of the dates in a field, if the settings ask for it. -/
def pattern? (f : Field) (s : DomainSettings) : Option String :=
  if s.dateSerialize then f.type.meaning.datePattern? else none

/-- The annotations of a date in the given pattern, that of the library first. -/
def dateAnnotations (library : JsonLibrary) (pattern : String) : List String :=
  (library.annotationLine? pattern).toList ++ [dateTimeFormat pattern]

/-- The field as the settings ask for it. -/
def decorated (s : DomainSettings) (f : Field) : Field :=
  match f.pattern? s with
  | none => f
  | some pattern => { f with annotations := f.annotations ++ dateAnnotations s.json pattern }

/-- Decorates the field of a column. -/
def decorate {m : Type → Type} [Monad m] [MonadJournal m] (f : Field) (c : Column)
    (s : DomainSettings) : m Field := do
  match f.pattern? s with
  | none => pure ()
  | some pattern =>
    note .debug ("field '" ++ f.name ++ "' (column '" ++ c.name ++ "'): date pattern " ++ pattern)
  return f.decorated s

end Field

end RecordSynth
