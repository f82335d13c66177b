import RecordSynth.Error
import RecordSynth.Identifier
import RecordSynth.Text.Blank
import RecordSynth.Text.Split
/-!
# Qualified names

The name of a type without its arguments: the package that holds it, its simple name and the number
of array brackets behind it. `java.util.Date[]` lies in `java.util`, and both its short form
`Date[]` and its full text keep the brackets.
-/

namespace RecordSynth

/-- The name of a type: a package, which may be none, a simple name and array brackets. -/
structure QualifiedName where
  /-- The segments of the package, outermost first. -/
  scope : List Identifier
  simple : Identifier
  /-- The number of array brackets. -/
  rank : Nat := 0
deriving DecidableEq, Repr

namespace QualifiedName

/-- The brackets of an array of the given rank. -/
def brackets : Nat → List Char
  | 0 => []
  | n + 1 => '[' :: ']' :: brackets n

/-- The segments with dots between them. -/
def dotted (segments : List Identifier) : String := Text.join "." (segments.map (·.text))

/-- The text of the name. -/
def text (n : QualifiedName) : String :=
  dotted (n.scope ++ [n.simple]) ++ String.ofList (brackets n.rank)

/-- The text of the name without its package. -/
def shortText (n : QualifiedName) : String := n.simple.text ++ String.ofList (brackets n.rank)

/-- The package of the name, if it has one. -/
def packageText? (n : QualifiedName) : Option String :=
  if n.scope = [] then none else some (dotted n.scope)

/-- The name without its package. -/
def unqualified (n : QualifiedName) : QualifiedName := { n with scope := [] }

/-- The name without array brackets. -/
def element (n : QualifiedName) : QualifiedName := { n with rank := 0 }

/-- The package whose members are known everywhere. -/
def implicitScope : List Identifier := [.javaSegment, ⟨"lang", by decide⟩]

/-- The member of the implicit package with the given simple name. -/
def implicit (simple : Identifier) : QualifiedName := { scope := implicitScope, simple }

/-- The primitive types, each with the simple name of its wrapper in the implicit package. -/
def wrappers : List (String × Identifier) :=
  [("boolean", ⟨"Boolean", by decide⟩), ("byte", ⟨"Byte", by decide⟩),
    ("char", ⟨"Character", by decide⟩), ("short", ⟨"Short", by decide⟩),
    ("int", ⟨"Integer", by decide⟩), ("long", ⟨"Long", by decide⟩),
    ("float", ⟨"Float", by decide⟩), ("double", ⟨"Double", by decide⟩),
    ("void", ⟨"Void", by decide⟩)]

/-- The wrapper of the primitive type with this simple name. -/
def wrapper? (simple : String) : Option Identifier := wrappers.lookup simple

/-- Whether the name is that of a primitive type or of an array of them. -/
def isPrimitive (n : QualifiedName) : Bool :=
  n.scope.isEmpty && (wrapper? n.simple.text).isSome

/-- Whether the name has to be imported where its short form is used: it lies in a package other
than the implicit one. -/
def needsImport (n : QualifiedName) : Bool := !n.scope.isEmpty && n.scope != implicitScope

/-- Array brackets at the end of a reversed text: their number and the reversed text in front. -/
def splitBrackets : List Char → Nat × List Char
  | ']' :: '[' :: r => ((splitBrackets r).1 + 1, (splitBrackets r).2)
  | s => (0, s)

/-- The segments as identifiers, if all of them are. -/
def identifiers? (segments : List (List Char)) : Option (List Identifier) :=
  segments.mapM fun s => Identifier.ofString? (String.ofList s)

/-- Reads a name from its exact text. -/
def ofChars? (s : List Char) : Option QualifiedName :=
  match splitBrackets s.reverse with
  | (rank, front) =>
    match identifiers? (Text.splitChars '.' front.reverse) with
    | none => none
    | some segments =>
      match segments.getLast? with
      | none => none
      | some simple => some { scope := segments.dropLast, simple, rank }

/-- Reads a name from a text, blanks around it allowed. A text that is no name is refused with the
whole text. -/
def parse (s : String) : Except Error QualifiedName :=
  match ofChars? (Text.trimChars s.toList) with
  | some n => .ok n
  | none => .error (.invalidType s)

end QualifiedName

end RecordSynth
