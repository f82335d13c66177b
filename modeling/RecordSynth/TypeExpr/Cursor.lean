import RecordSynth.TypeExpr.Reader
/-!
# Reading type expressions at a cursor

The reader of types over the bytes of the text: it stands at a byte, looks at the text from there on
and moves. A text can be cut only where a character starts or the text ends, so a cursor that stood
inside a character or beyond the end would break the reading off; and nothing in the recursion says
that it comes to an end, so a reading is given fuel for the depth of its calls. What a reading does
with its cursor is recorded, so that it can be spoken about.
-/

namespace RecordSynth

namespace TypeExpr

/-- What happens in a reading. -/
inductive Event where
  /-- A text is cut at a byte. -/
  | slice (whole : String) (pos : Nat)
  /-- The cursor moves. -/
  | move (old new : Nat)
  /-- A type is to be read, either as a whole text or as an argument of the type that the call at
  `caller` reads. -/
  | call (caller : Option Nat) (start : Nat)
  /-- A turn of the loop over the arguments has read its argument and looked behind it. -/
  | turn (start stop : Nat)
deriving DecidableEq, Repr

/-- Where a reading stands, by bytes, and what has happened so far, first event first. -/
structure Cursor where
  pos : Nat := 0
  events : List Event := []
deriving DecidableEq, Repr

/-- Why a reading ends without a type: the text is none, or it was cut where it cannot be, or the
fuel did not last. -/
inductive Fault where
  | refused (error : Error)
  | badSlice
  | exhausted
deriving DecidableEq, Repr

/-- Readings at a cursor. -/
abbrev Scan (α : Type) := ExceptT Fault (StateM Cursor) α

namespace Scan

/-- Where the cursor stands. -/
def position : Scan Nat := return (← get).pos

/-- Records an event. -/
def observe (event : Event) : Scan Unit :=
  modify fun c => { c with events := c.events ++ [event] }

/-- Moves the cursor. -/
def moveTo (pos : Nat) : Scan Unit := do
  observe (.move (← position) pos)
  modify fun c => { c with pos }

/-- The text from a byte on. -/
def sliceFrom (whole : String) (pos : Nat) : Scan String := do
  observe (.slice whole pos)
  if h : String.Pos.Raw.IsValid whole ⟨pos⟩ then return (whole.sliceFrom ⟨⟨pos⟩, h⟩).copy
  else throw .badSlice

/-- The text up to a byte. -/
def sliceTo (whole : String) (pos : Nat) : Scan String := do
  observe (.slice whole pos)
  if h : String.Pos.Raw.IsValid whole ⟨pos⟩ then return (whole.sliceTo ⟨⟨pos⟩, h⟩).copy
  else throw .badSlice

/-- The byte at which the first character starts that passes a test. -/
def findByte? (p : Char → Bool) : List Char → Option Nat
  | [] => none
  | c :: s => if p c then some 0 else (findByte? p s).map (c.utf8Size + ·)

variable (text : String)

/-- Ends the reading: the text as a whole is no type. -/
def refuse {α : Type} : Scan α := throw (.refused (.invalidType text))

/-- Moves over the blanks at the cursor. -/
def skipBlank : Scan Unit := do
  let rest ← sliceFrom text (← position)
  let kept := String.ofList (Text.dropBlank rest.toList)
  moveTo (text.utf8ByteSize - kept.utf8ByteSize)

/-- Moves over blanks and then over one character, if it is the next one. -/
def eat (c : Char) : Scan Bool := do
  skipBlank text
  let rest ← sliceFrom text (← position)
  if rest.toList.head? = some c then
    moveTo ((← position) + c.utf8Size)
    return true
  else
    return false

/-- Takes a part of the text for a name and moves to the byte where it stops. -/
def takeName (part : String) (stop : Nat) : Scan QualifiedName :=
  match QualifiedName.parse part with
  | .error _ => refuse text
  | .ok n => do
    moveTo ((← position) + stop)
    return n

/-- Reads the name at the cursor, up to the next delimiter. -/
def name : Scan QualifiedName := do
  skipBlank text
  let rest ← sliceFrom text (← position)
  let stop := (findByte? isDelimiter rest.toList).getD rest.utf8ByteSize
  takeName text (← sliceTo rest stop) stop

mutual

/-- Reads the type at the cursor, with fuel for this call and those within it. -/
def type : Nat → Option Nat → Scan TypeExpr
  | 0, _ => throw .exhausted
  | fuel + 1, caller => do
    let start ← position
    observe (.call caller start)
    let n ← name text
    if ← eat text '<' then arguments fuel start (ofName n) else return ofName n

/-- Reads arguments of a type up to the closing bracket, one with each turn. -/
def arguments : Nat → Nat → TypeExpr → Scan TypeExpr
  | 0, _, _ => throw .exhausted
  | fuel + 1, caller, t => do
    let start ← position
    let t := t.apply (← type fuel (some caller))
    if ← eat text ',' then
      observe (.turn start (← position))
      arguments fuel caller t
    else if ← eat text '>' then
      observe (.turn start (← position))
      return t
    else
      observe (.turn start (← position))
      refuse text

end

/-- Reads a whole text as a type. -/
def whole (fuel : Nat) : Scan TypeExpr := do
  let t ← type text fuel none
  skipBlank text
  if (← position) = text.utf8ByteSize then return t else refuse text

end Scan

/-- What reading a text comes to, and the cursor that it leaves. -/
def scan (fuel : Nat) (text : String) : Except Fault TypeExpr × Cursor :=
  (ExceptT.run (Scan.whole text fuel)).run {}

end TypeExpr

end RecordSynth
