import RecordSynth.TypeExpr
/-!
# Sets of types

Types in the order in which they were added, one for each qualified name. The first type of a name
stays until it is erased; a type added after that comes last.
-/

namespace RecordSynth

/-- Types in order of addition, one for each name. -/
structure TypeSet where
  types : List TypeExpr := []
deriving DecidableEq, Repr

namespace TypeSet

/-- Whether a type of this name is in the set. -/
def contains (s : TypeSet) (name : String) : Bool := s.types.any (·.name.text == name)

/-- Whether a type of the same name is in the set. -/
def containsName (s : TypeSet) (n : QualifiedName) : Bool := s.types.any (·.name == n)

/-- The set with a type added at its end, unless its name is there. -/
def insert (s : TypeSet) (t : TypeExpr) : TypeSet :=
  if s.containsName t.name then s else ⟨s.types ++ [t]⟩

/-- The type of this name. -/
def find? (s : TypeSet) (name : String) : Option TypeExpr := s.types.find? (·.name.text == name)

/-- The set without the type of this name. -/
def erase (s : TypeSet) (name : String) : TypeSet := ⟨s.types.filter (·.name.text != name)⟩

/-- Adds a type, and tells whether its name was new. -/
def add (s : TypeSet) (t : TypeExpr) : Bool × TypeSet :=
  if s.containsName t.name then (false, s) else (true, ⟨s.types ++ [t]⟩)

theorem snd_add (s : TypeSet) (t : TypeExpr) : (s.add t).2 = s.insert t := by
  unfold add insert
  split <;> rfl

/-- Takes the type of this name out of the set. -/
def take (s : TypeSet) (name : String) : Option TypeExpr × TypeSet := (s.find? name, s.erase name)

/-- The number of types. -/
def size (s : TypeSet) : Nat := s.types.length

/-- Whether there are none. -/
def isEmpty (s : TypeSet) : Bool := s.types.isEmpty

end TypeSet

end RecordSynth
