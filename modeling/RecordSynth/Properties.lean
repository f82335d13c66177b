import RecordSynth.Text.Blank
/-!
# Properties

Settings as keys and texts, in the order in which the keys first came. Setting a key again changes
its text and not its place.
-/

namespace RecordSynth

/-- Keys and their values, each key once, in order of first appearance. -/
structure Keyed (α : Type) where
  entries : List (String × α) := []
deriving DecidableEq, Repr

namespace Keyed

variable {α : Type}

/-- The entries with the value of a key set: in its place if it is there, else at the end. -/
def setEntry (key : String) (value : α) : List (String × α) → List (String × α)
  | [] => [(key, value)]
  | (k, v) :: rest => if k = key then (k, value) :: rest else (k, v) :: setEntry key value rest

/-- The value of a key set. -/
def set (m : Keyed α) (key : String) (value : α) : Keyed α := ⟨setEntry key value m.entries⟩

/-- The value of a key. -/
def get? (m : Keyed α) (key : String) : Option α := m.entries.lookup key

theorem lookup_cons (k a : String) (value : α) (rest : List (String × α)) :
    ((a, value) :: rest).lookup k = if k = a then some value else rest.lookup k := by
  by_cases first : k = a
  · rw [first, List.lookup_cons_self, if_pos rfl]
  · rw [List.lookup_cons, beq_false_of_ne first, if_neg first]

@[simp] theorem lookup_setEntry (key : String) (value : α) (entries : List (String × α))
    (k : String) : (setEntry key value entries).lookup k =
      if k = key then some value else entries.lookup k := by
  induction entries with
  | nil => rw [setEntry, lookup_cons]
  | cons e rest ih =>
    obtain ⟨a, v⟩ := e
    rw [setEntry, lookup_cons]
    by_cases there : a = key
    · rw [if_pos there, lookup_cons, there]
      by_cases asked : k = key <;> simp [asked]
    · rw [if_neg there, lookup_cons, ih]
      by_cases first : k = a
      · simp [first, there]
      · simp [first]

/-- Setting a key changes its value and no other. -/
@[simp] theorem get?_set (m : Keyed α) (key : String) (value : α) (k : String) :
    (m.set key value).get? k = if k = key then some value else m.get? k :=
  lookup_setEntry key value m.entries k

/-- Several keys set, one after another. -/
def setAll (m : Keyed α) (entries : List (String × α)) : Keyed α :=
  entries.foldl (fun m (k, v) => m.set k v) m

/-- The entries of a list, the last value of a key in the place of its first. -/
def ofList (entries : List (String × α)) : Keyed α := setAll {} entries

end Keyed

/-- The properties of a plugin. -/
abbrev Properties := Keyed String

namespace Properties

/-- A text that says yes: `true`, in any case, with blanks around it. -/
def saysTrue (value : Option String) : Bool :=
  match value with
  | none => false
  | some v => Text.lowerAscii (Text.trim v) == "true"

/-- Whether the value of a key says yes. -/
def isTrue (p : Properties) (key : String) : Bool := saysTrue (p.get? key)

/-- The value of a key without the blanks around it, unless nothing is left. -/
def filled? (p : Properties) (key : String) : Option String :=
  match p.get? key with
  | none => none
  | some v => if Text.trim v = "" then none else some (Text.trim v)

end Properties

end RecordSynth
