import RecordSynth.Declaration
import RecordSynth.Journal
/-!
# Generator markers

Generated members carry an annotation that names their generator. Removing it is the first thing
done to a generated record class: the annotation goes from each member and nested declaration, once
each, the import behind it goes too, and the comment of the first field ends in an empty line.
-/

namespace RecordSynth

/-- The annotation type behind generator markers. -/
def generatedType : TypeExpr :=
  .ofName { scope := [⟨"javax", by decide⟩, .annotationSegment],
            simple := ⟨"Generated", by decide⟩ }

/-- The annotation on everything that the table mapper generates. -/
def generatorMarker : String := "@Generated(\"org.mybatis.generator.api.MyBatisGenerator\")"

/-- The field with an empty line at the end of its comment, unless the comment has one. -/
def Field.closeDoc (f : Field) : Field :=
  if f.docLines.getLast? = some "" then f else { f with docLines := f.docLines ++ [""] }

/-- The fields with the comment of the first one closed. -/
def closeFirstDoc : List Field → List Field
  | [] => []
  | f :: fs => f.closeDoc :: fs

/-- The field without the first annotation equal to a marker. -/
def Field.dropMarker (marker : String) (f : Field) : Field :=
  { f with annotations := f.annotations.erase marker }

/-- The method without the first annotation equal to a marker. -/
def Method.dropMarker (marker : String) (m : Method) : Method :=
  { m with annotations := m.annotations.erase marker }

/-- The declaration without the first annotation equal to a marker. -/
def Declaration.dropMarker (marker : String) (d : Declaration) : Declaration :=
  { d with annotations := d.annotations.erase marker }

mutual

/-- The declaration without the marker on its members and in its nested declarations. Its own
annotations stay. -/
def Declaration.stripMarker (marker : String) : Declaration → Declaration
  | d@⟨_, _, _, _, _, _, _, _, _, nested⟩ =>
    { d with
      imports := d.imports.erase generatedType.name.text
      fields := (closeFirstDoc d.fields).map (·.dropMarker marker)
      methods := d.methods.map (·.dropMarker marker)
      nested := stripMarkerAll marker nested }

/-- Nested declarations without the marker on them and in them. -/
def Declaration.stripMarkerAll (marker : String) : List Declaration → List Declaration
  | [] => []
  | d :: ds => (d.stripMarker marker).dropMarker marker :: stripMarkerAll marker ds

end

/-- The declaration without generator markers. -/
def Declaration.stripGenerator {m : Type → Type} [Monad m] [MonadJournal m] (d : Declaration) :
    m Declaration := do
  note .debug (d.name.text ++ ": stripping generator markers")
  return d.stripMarker generatorMarker

end RecordSynth
