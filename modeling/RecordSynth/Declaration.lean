import RecordSynth.Declaration.TypeSet
/-!
# Declarations

The classes and interfaces that are generated: what they are called, what they extend, what they
import, and their members. Annotations, comments and bodies are kept as source lines. Imports are
added only where they are needed, so a set of imports never names the implicit package, a primitive
type or a neighbour.
-/

namespace RecordSynth

/-- Who may refer to a declaration or a member. -/
inductive Visibility where
  | publicAccess
  | protectedAccess
  | privateAccess
  /-- The package alone; there is no word for it. -/
  | packageAccess
deriving DecidableEq, Repr

/-- The two kinds of declarations. -/
inductive DeclarationKind where
  | interfaceType
  | classType
deriving DecidableEq, Repr

/-- A field. -/
structure Field where
  name : String
  type : TypeExpr
  visibility : Visibility := .privateAccess
  annotations : List String := []
  /-- The lines of its comment. -/
  docLines : List String := []
deriving DecidableEq, Repr

/-- A parameter of a method. -/
structure Parameter where
  name : String
  type : TypeExpr
deriving DecidableEq, Repr

/-- A method. -/
structure Method where
  name : String
  parameters : List Parameter := []
  /-- The type of its result, if it has one. -/
  returnType : Option TypeExpr := none
  bodyLines : List String := []
  annotations : List String := []
  visibility : Visibility := .packageAccess
deriving DecidableEq, Repr

/-- Whether some parameter has the same base as a type. -/
def Method.hasParameterOf (m : Method) (t : TypeExpr) : Bool :=
  m.parameters.any (·.type.sameBase t)

/-- A class or an interface. -/
structure Declaration where
  /-- Its name; a declaration has no type arguments. -/
  name : QualifiedName
  kind : DeclarationKind
  visibility : Visibility := .packageAccess
  superType : Option TypeExpr := none
  superInterfaces : TypeSet := {}
  imports : TypeSet := {}
  fields : List Field := []
  methods : List Method := []
  annotations : List String := []
  nested : List Declaration := []
deriving Repr

mutual

/-- The types that a type and its arguments ask to be imported where `scope` is the package: a type
before its arguments, arguments from left to right. -/
def TypeExpr.importsFrom (scope : List Identifier) : TypeExpr → List TypeExpr
  | ⟨n, args⟩ =>
    if n.needsImport ∧ n.scope ≠ scope then
      TypeExpr.ofName n.element :: TypeExpr.importsFromAll scope args
    else TypeExpr.importsFromAll scope args

/-- The types that several types ask to be imported. -/
def TypeExpr.importsFromAll (scope : List Identifier) : List TypeExpr → List TypeExpr
  | [] => []
  | t :: ts => t.importsFrom scope ++ TypeExpr.importsFromAll scope ts

end

namespace Declaration

/-- An empty declaration of a type; arguments of the type are dropped. -/
def ofType (kind : DeclarationKind) (t : TypeExpr) : Declaration := { name := t.name, kind }

/-- The declared type. -/
def type (d : Declaration) : TypeExpr := .ofName d.name

/-- The declaration with the imports that a type asks for: itself, unless it is known without or is
a neighbour, and its arguments likewise. Arrays import their elements. -/
def addImport (d : Declaration) (t : TypeExpr) : Declaration :=
  { d with imports := (t.importsFrom d.name.scope).foldl TypeSet.insert d.imports }

/-- The declaration without the import of a name. -/
def removeImport (d : Declaration) (name : String) : Declaration :=
  { d with imports := d.imports.erase name }

/-- The declaration with one more super-interface, unless it has one of that name. -/
def addSuperInterface (d : Declaration) (t : TypeExpr) : Declaration :=
  { d with superInterfaces := d.superInterfaces.insert t }

/-- The declaration with an annotation behind the others. -/
def annotate (d : Declaration) (line : String) : Declaration :=
  { d with annotations := d.annotations ++ [line] }

/-- The declaration with a field behind the others. -/
def addField (d : Declaration) (f : Field) : Declaration := { d with fields := d.fields ++ [f] }

/-- The declaration with a method behind the others. -/
def addMethod (d : Declaration) (m : Method) : Declaration := { d with methods := d.methods ++ [m] }

/-- The declaration with a nested declaration behind the others. -/
def addNested (d : Declaration) (inner : Declaration) : Declaration :=
  { d with nested := d.nested ++ [inner] }

/-- The first field of a name. -/
def field? (d : Declaration) (name : String) : Option Field := d.fields.find? (·.name == name)

/-- The path of the source file, from the root of its project. -/
def sourcePath (d : Declaration) : String :=
  Text.join "/" (d.name.scope.map (·.text) ++ [d.name.shortText ++ ".java"])

end Declaration

end RecordSynth
