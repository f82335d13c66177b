import RecordSynth.Path
/-!
# Trees of files

Files and directories as a value, with a directory from which relative paths start. A path is walked
name by name: every name but the last has to lead to a directory, and two dots lead upwards.
-/

namespace RecordSynth

/-- What is at a place of a tree. -/
inductive Entry where
  | directory
  | file (content : List UInt8)
deriving DecidableEq, Repr

/-- Why a file cannot be read. -/
inductive ReadFault where
  | missing
  | notDirectory
  | isDirectory
  | nameTooLong
  | nameHasNul
  | notText
deriving DecidableEq, Repr

/-- The wording of a fault. -/
def ReadFault.message : ReadFault → String
  | .missing => "No such file or directory (os error 2)"
  | .notDirectory => "Not a directory (os error 20)"
  | .isDirectory => "Is a directory (os error 21)"
  | .nameTooLong => "File name too long (os error 36)"
  | .nameHasNul => "file name contained an unexpected NUL byte"
  | .notText => "stream did not contain valid UTF-8"

/-- A tree of files. Places are lists of names from the root, which is always a directory. -/
structure FileTree where
  /-- What is at each place, the latest change first. -/
  entries : List (List String × Entry) := []
  /-- Where relative paths start. -/
  home : List String := []
deriving Repr

namespace FileTree

/-- What is at a place. -/
def entry? (t : FileTree) (place : List String) : Option Entry :=
  if place = [] then some .directory else t.entries.lookup place

/-- Puts an entry at a place. -/
def put (t : FileTree) (place : List String) (e : Entry) : FileTree :=
  { t with entries := (place, e) :: t.entries.filter (·.1 ≠ place) }

/-- The longest name, in octets. -/
def maxName : Nat := 255

/-- The place where a path starts. -/
def start (t : FileTree) (path : String) : List String :=
  if Path.isAbsolute path then [] else t.home

/-- Goes from a place by the parts of a path. -/
def walk (t : FileTree) : List String → List String → Except ReadFault (List String)
  | place, [] => .ok place
  | place, n :: ns =>
    match t.entry? place with
    | none => .error .missing
    | some (.file _) => .error .notDirectory
    | some .directory =>
      if n = "" ∨ n = "." then walk t place ns
      else if n = ".." then walk t place.dropLast ns
      else if maxName < n.utf8ByteSize then .error .nameTooLong
      else walk t (place ++ [n]) ns

/-- Whether a text has the character that no path may have. -/
def hasNul (s : String) : Bool := s.toList.contains '\x00'

/-- The text of the file at a path. -/
def read (t : FileTree) (path : String) : Except ReadFault String := do
  if hasNul path then throw .nameHasNul
  if path = "" then throw .missing
  let place ← t.walk (t.start path) (Path.parts path)
  match t.entry? place with
  | none => throw .missing
  | some .directory => throw .isDirectory
  | some (.file content) =>
    match String.fromUTF8? ⟨content.toArray⟩ with
    | some s => return s
    | none => throw .notText

/-- Goes from a place by names and makes the directories that are missing. Those made before a name
that leads nowhere remain; the place is none then. -/
def makeDirectories (t : FileTree) : List String → List String → FileTree × Option (List String)
  | place, [] => (t, some place)
  | place, n :: ns =>
    if n = ".." then makeDirectories t place.dropLast ns
    else if maxName < n.utf8ByteSize then (t, none)
    else
      let next := place ++ [n]
      match t.entry? next with
      | some .directory => makeDirectories t next ns
      | some (.file _) => (t, none)
      | none => makeDirectories (t.put next .directory) next ns

/-- The tree with a file written, and whether it was. The directories above the file are made if
they are missing. -/
def write (t : FileTree) (path : String) (content : List UInt8) : FileTree × Bool :=
  let above := (Path.names path).dropLast
  if above.any hasNul then (t, false)
  else
    match t.makeDirectories (t.start path) above with
    | (t, none) => (t, false)
    | (t, some place) =>
      match (Path.parts path).getLast? with
      | none => (t, false)
      | some n =>
        let next := place ++ [n]
        if n = "" ∨ n = "." ∨ n = ".." ∨ hasNul n ∨ maxName < n.utf8ByteSize ∨
            t.entry? next = some .directory then (t, false)
        else (t.put next (.file content), true)

end FileTree

end RecordSynth
