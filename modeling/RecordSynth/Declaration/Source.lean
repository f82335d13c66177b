import RecordSynth.Declaration
/-!
# The source of a declaration

A source file is the line of its package, the lines of its imports in order of their names, and the
declaration, in which every type goes by its short name. Members are indented by four blanks for
each level and separated by blank lines: fields first, then methods, then nested declarations.
-/

namespace RecordSynth

/-- The word of a visibility, with a blank behind it. -/
def Visibility.keyword : Visibility → String
  | .publicAccess => "public "
  | .protectedAccess => "protected "
  | .privateAccess => "private "
  | .packageAccess => ""

/-- The word of a kind of declaration. -/
def DeclarationKind.keyword : DeclarationKind → String
  | .interfaceType => "interface"
  | .classType => "class"

namespace Source

/-- The blanks in front of a line at a depth. -/
def indent (depth : Nat) : String := String.ofList (List.replicate (4 * depth) ' ')

/-- A line at a depth. -/
def line (depth : Nat) (text : String) : String := indent depth ++ text ++ "\n"

/-- Lines at a depth. -/
def lines (depth : Nat) (texts : List String) : String := String.join (texts.map (line depth))

/-- The lines of a comment; there are none without text. -/
def docLines (texts : List String) : List String :=
  if texts = [] then []
  else ["/**"] ++ texts.map (fun t => if t = "" then " *" else " * " ++ t) ++ [" */"]

/-- A field at a depth. -/
def field (depth : Nat) (f : Field) : String :=
  lines depth (docLines f.docLines ++ f.annotations ++
    [f.visibility.keyword ++ f.type.shortText ++ " " ++ f.name ++ ";"])

/-- A method up to the end of its parameters. -/
def signature (m : Method) : String :=
  let result :=
    match m.returnType with
    | none => "void"
    | some t => t.shortText
  m.visibility.keyword ++ result ++ " " ++ m.name ++ "(" ++
    Text.join ", " (m.parameters.map fun p => p.type.shortText ++ " " ++ p.name) ++ ")"

/-- A method at a depth. Methods of interfaces have no bodies. -/
def method (owner : DeclarationKind) (depth : Nat) (m : Method) : String :=
  match owner with
  | .interfaceType => lines depth (m.annotations ++ [signature m ++ ";"])
  | .classType =>
    lines depth (m.annotations ++ [signature m ++ " \x7b"]) ++ lines (depth + 1) m.bodyLines ++
      line depth "\x7d"

/-- The supertypes behind a word; nothing if there are none. -/
def parents (word : String) (types : List TypeExpr) : String :=
  if types = [] then "" else " " ++ word ++ " " ++ Text.join ", " (types.map (·.shortText))

/-- The line that introduces a declaration, up to its opening brace. -/
def header (d : Declaration) : String :=
  d.visibility.keyword ++ d.kind.keyword ++ " " ++ d.name.shortText ++
    match d.kind with
    | .interfaceType => parents "extends" d.superInterfaces.types
    | .classType =>
      parents "extends" d.superType.toList ++ parents "implements" d.superInterfaces.types

mutual

/-- A declaration at a depth, without package and imports. -/
def body (depth : Nat) : Declaration → String
  | d@⟨_, _, _, _, _, _, _, _, _, nested⟩ =>
    lines depth (d.annotations ++ [header d ++ " \x7b"]) ++
      Text.join "\n" (d.fields.map (field (depth + 1)) ++
        d.methods.map (method d.kind (depth + 1)) ++ bodies (depth + 1) nested) ++
      line depth "\x7d"

/-- Nested declarations at a depth. -/
def bodies (depth : Nat) : List Declaration → List String
  | [] => []
  | d :: ds => body depth d :: bodies depth ds

end

/-- The names of the imports of a declaration, in order. -/
def importNames (d : Declaration) : List String :=
  (d.imports.types.map (·.name.text)).mergeSort (fun a b => decide (a ≤ b))

/-- The lines in front of the declaration: package and imports, each followed by an empty line. -/
def preamble (d : Declaration) : String :=
  (match d.name.packageText? with
    | none => ""
    | some p => "package " ++ p ++ ";\n\n") ++
  match importNames d with
  | [] => ""
  | names => lines 0 (names.map fun n => "import " ++ n ++ ";") ++ "\n"

end Source

/-- The source file of a declaration. -/
def Declaration.source (d : Declaration) : String := Source.preamble d ++ Source.body 0 d

end RecordSynth
