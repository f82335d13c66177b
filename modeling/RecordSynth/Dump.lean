import RecordSynth.Json.Writer
import RecordSynth.Pass
/-!
# Dumps

What a run made, as a value tree: every part of every declaration, so that nothing of the output is
lost in it. The order of the members is that of the declarations' parts.
-/

namespace RecordSynth

/-- The name of a visibility. -/
def Visibility.label : Visibility → String
  | .publicAccess => "public"
  | .protectedAccess => "protected"
  | .privateAccess => "private"
  | .packageAccess => "default"

/-- The name of a kind of declaration. -/
def DeclarationKind.label : DeclarationKind → String
  | .interfaceType => "interface"
  | .classType => "class"

/-- A type as a value: its text. -/
def TypeExpr.toJson (t : TypeExpr) : Json := .text t.text

/-- A type that may be missing, as a value. -/
def TypeExpr.toJson? : Option TypeExpr → Json
  | none => .null
  | some t => t.toJson

/-- A set of types as a value. -/
def TypeSet.toJson (s : TypeSet) : Json := .array (s.types.map (·.toJson))

/-- A field as a value. -/
def Field.toJson (f : Field) : Json :=
  .object [("name", .text f.name), ("type", f.type.toJson),
    ("visibility", .text f.visibility.label), ("annotations", Json.texts f.annotations),
    ("docLines", Json.texts f.docLines)]

/-- A parameter as a value. -/
def Parameter.toJson (p : Parameter) : Json :=
  .object [("name", .text p.name), ("type", p.type.toJson)]

/-- A method as a value. -/
def Method.toJson (m : Method) : Json :=
  .object [("name", .text m.name), ("parameters", .array (m.parameters.map (·.toJson))),
    ("returnType", TypeExpr.toJson? m.returnType), ("bodyLines", Json.texts m.bodyLines),
    ("annotations", Json.texts m.annotations), ("visibility", .text m.visibility.label)]

mutual

/-- A declaration as a value. -/
def Declaration.toJson : Declaration → Json
  | d@⟨_, _, _, _, _, _, _, _, _, nested⟩ =>
    .object [("type", d.type.toJson), ("kind", .text d.kind.label),
      ("visibility", .text d.visibility.label), ("superType", TypeExpr.toJson? d.superType),
      ("superInterfaces", d.superInterfaces.toJson), ("importedTypes", d.imports.toJson),
      ("fields", .array (d.fields.map (·.toJson))), ("methods", .array (d.methods.map (·.toJson))),
      ("annotations", Json.texts d.annotations), ("nested", .array (Declaration.toJsonAll nested))]

/-- Declarations as values. -/
def Declaration.toJsonAll : List Declaration → List Json
  | [] => []
  | d :: ds => d.toJson :: Declaration.toJsonAll ds

end

/-- An artifact as a value. -/
def Artifact.toJson (a : Artifact) : Json :=
  .object [("declaration", a.declaration.toJson), ("targetProject", .text a.targetProject)]

/-- The output of a run as a value. -/
def PassOutput.toJson (o : PassOutput) : Json :=
  .object [("artifacts", .array (o.artifacts.map (·.toJson))), ("warnings", Json.texts o.warnings)]

end RecordSynth
