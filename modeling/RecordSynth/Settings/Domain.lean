import RecordSynth.Properties
import RecordSynth.TypeExpr
/-!
# Settings of the domain plugin

Which decorations record classes receive, and for which serialization library.
-/

namespace RecordSynth

/-- The library whose date annotation decorates fields. -/
inductive JsonLibrary where
  | none
  | fastjson
  | jackson
deriving DecidableEq, Repr

namespace JsonLibrary

/-- The library that a property names; any other text names none. -/
def ofProperty (value : Option String) : JsonLibrary :=
  match value.map fun v => Text.lowerAscii (Text.trim v) with
  | some "fastjson" => .fastjson
  | some "jackson" => .jackson
  | _ => .none

/-- The annotation type of the library. -/
def annotationName? : JsonLibrary → Option QualifiedName
  | .none => Option.none
  | .fastjson =>
    some { scope := [⟨"com", by decide⟩, ⟨"alibaba", by decide⟩, ⟨"fastjson", by decide⟩,
             .annotationSegment], simple := ⟨"JSONField", by decide⟩ }
  | .jackson =>
    some { scope := [⟨"com", by decide⟩, ⟨"fasterxml", by decide⟩, ⟨"jackson", by decide⟩,
             .annotationSegment], simple := ⟨"JsonFormat", by decide⟩ }

/-- The annotation that writes a field in the given pattern. -/
def annotationLine? (library : JsonLibrary) (pattern : String) : Option String :=
  match library with
  | .none => Option.none
  | .fastjson => some ("@JSONField(pattern=\"" ++ pattern ++ "\")")
  | .jackson => some ("@JsonFormat(pattern=\"" ++ pattern ++ "\")")

end JsonLibrary

/-- The settings of the domain plugin. -/
structure DomainSettings where
  /-- Whether record classes are marked as serializable. -/
  serializable : Bool := false
  /-- Whether dates are decorated. -/
  dateSerialize : Bool := false
  json : JsonLibrary := .none
deriving DecidableEq, Repr

/-- The settings that properties give. -/
def DomainSettings.ofProperties (p : Properties) : DomainSettings where
  serializable := p.isTrue "serializable"
  dateSerialize := p.isTrue "dateSerialize"
  json := JsonLibrary.ofProperty (p.get? "json")

end RecordSynth
