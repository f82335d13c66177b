import RecordSynth.QualifiedName
/-!
# Package paths

A package as its segments, outermost first. A path has at least one segment and each is an
identifier, so neighbouring packages are found by editing segments and never by editing text.
-/

namespace RecordSynth

/-- A package: identifiers, outermost first, at least one. -/
structure PackagePath where
  segments : List Identifier
  segments_ne_nil : segments ≠ [] := by decide
deriving DecidableEq, Repr

namespace PackagePath

/-- The text of the path. -/
def text (p : PackagePath) : String := QualifiedName.dotted p.segments

/-- A path of segments given as texts. Without segments there is no path; else the first text that
is no identifier is the one refused. -/
def ofSegments (texts : List String) : Except Error PackagePath :=
  match texts.find? fun s => !Identifier.accepts s.toList with
  | some bad => .error (.invalidPackage bad)
  | none =>
    match texts.filterMap Identifier.ofString? with
    | [] => .error (.invalidPackage "")
    | a :: as => .ok ⟨a :: as, by simp⟩

/-- Reads a path from a dotted text, blanks around it allowed. A text that is no path is refused
with the whole text. -/
def parse (s : String) : Except Error PackagePath :=
  match ofSegments (Text.split '.' (Text.trim s)) with
  | .ok p => .ok p
  | .error _ => .error (.invalidPackage s)

/-- The innermost segment. -/
def last (p : PackagePath) : Identifier := p.segments.getLast p.segments_ne_nil

/-- The package around this one, if there is one. -/
def parent? (p : PackagePath) : Option PackagePath :=
  if h : p.segments.dropLast = [] then none else some ⟨p.segments.dropLast, h⟩

/-- The package of the given name inside this one. -/
def inner (p : PackagePath) (segment : Identifier) : PackagePath :=
  ⟨p.segments ++ [segment], by simp⟩

/-- The package of the given name beside this one. -/
def sibling (p : PackagePath) (segment : Identifier) : PackagePath :=
  ⟨p.segments.dropLast ++ [segment], by simp⟩

/-- A segment given as text. -/
def segment (s : String) : Except Error Identifier :=
  match Identifier.ofString? s with
  | some a => .ok a
  | none => .error (.invalidPackage s)

/-- The package inside this one that is named by a text. -/
def child (p : PackagePath) (s : String) : Except Error PackagePath := p.inner <$> segment s

/-- The package beside this one that is named by a text. -/
def withLastReplaced (p : PackagePath) (s : String) : Except Error PackagePath :=
  p.sibling <$> segment s

/-- A simple name behind the package. -/
def qualify (p : PackagePath) (simple : String) : String := p.text ++ "." ++ simple

/-- The directory of the sources of the package. -/
def directory (p : PackagePath) : String := Text.join "/" (p.segments.map (·.text))

/-- The package of the dynamic statements beside a package of clients. -/
def dynamicStatements (p : PackagePath) : PackagePath := p.sibling ⟨"sql", by decide⟩

end PackagePath

end RecordSynth
