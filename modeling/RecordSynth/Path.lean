import RecordSynth.Text.Blank
import RecordSynth.Text.Split
/-!
# Paths

Paths as texts with slashes. A path is kept as it is written, so joining never shortens one; what it
leads to is decided by the names in it, for which empty parts and single dots do not count.
-/

namespace RecordSynth.Path

/-- Whether a path starts at the root. -/
def isAbsolute (p : String) : Bool := p.toList.head? == some '/'

/-- The path that `q` is as seen from the directory `p`: `q` itself if it is absolute, else `q`
behind `p` with one slash between them. -/
def join (p q : String) : String :=
  if isAbsolute q ∨ p = "" then q
  else if p.toList.getLast? = some '/' then p ++ q
  else p ++ "/" ++ q

/-- The parts of a path between its slashes, empty ones included. -/
def parts (p : String) : List String := Text.split '/' p

/-- The names in a path. -/
def names (p : String) : List String := (parts p).filter fun n => n ≠ "" ∧ n ≠ "."

/-- The path to the directory that a path leads into. -/
def above (p : String) : String :=
  (if isAbsolute p then "/" else "") ++ Text.join "/" (names p).dropLast

/-- The name that a path ends with, unless it ends upwards. -/
def fileName? (p : String) : Option String :=
  match (names p).getLast? with
  | some n => if n = ".." then none else some n
  | none => none

/-- What follows the last dot of a name, if something is in front of it. -/
def extension? (p : String) : Option String := do
  let name ← fileName? p
  let ending := name.toList.reverse.takeWhile (· ≠ '.')
  if ending.length + 1 < name.length then some (String.ofList ending.reverse) else none

/-- Whether a path has an extension, the case of ASCII letters aside. -/
def hasExtension (e p : String) : Bool :=
  (extension? p).any (Text.equalIgnoringCase e)

example : join "out/" "a" = "out/a" ∧ join "." "" = "./" ∧ join "a" "/b" = "/b" := by decide
example : extension? "a/.json" = none ∧ extension? "b.x.JSON/." = some "JSON" := by decide

end RecordSynth.Path
