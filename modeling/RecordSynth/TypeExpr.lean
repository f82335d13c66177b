import RecordSynth.QualifiedName
/-!
# Type expressions

A type as generated sources write it: a qualified name applied to any number of type arguments. Two
expressions have the same base when their names agree, whatever their arguments.
-/

namespace RecordSynth

/-- A name with its type arguments, in order. -/
structure TypeExpr where
  name : QualifiedName
  arguments : List TypeExpr := []
deriving Repr

namespace TypeExpr

mutual

/-- Decides equality of type expressions. -/
def decEq : (a b : TypeExpr) → Decidable (a = b)
  | ⟨n, as⟩, ⟨k, bs⟩ =>
    if hn : n = k then
      match decEqList as bs with
      | isTrue h => isTrue (by rw [hn, h])
      | isFalse h => isFalse fun e => h (by cases e; rfl)
    else isFalse fun e => hn (by cases e; rfl)

/-- Decides equality of lists of type expressions. -/
def decEqList : (as bs : List TypeExpr) → Decidable (as = bs)
  | [], [] => isTrue rfl
  | [], _ :: _ => isFalse (by simp)
  | _ :: _, [] => isFalse (by simp)
  | a :: as, b :: bs =>
    match decEq a b with
    | isTrue h =>
      match decEqList as bs with
      | isTrue hs => isTrue (by rw [h, hs])
      | isFalse hs => isFalse fun e => hs (by cases e; rfl)
    | isFalse h => isFalse fun e => h (by cases e; rfl)

end

instance : DecidableEq TypeExpr := decEq

mutual

/-- The text of an expression in which every name is spelled by `spell`. -/
def render (spell : QualifiedName → String) : TypeExpr → String
  | ⟨n, args⟩ =>
    match args with
    | [] => spell n
    | a :: as => spell n ++ "<" ++ Text.join ", " (renderAll spell (a :: as)) ++ ">"

/-- The texts of several expressions. -/
def renderAll (spell : QualifiedName → String) : List TypeExpr → List String
  | [] => []
  | t :: ts => render spell t :: renderAll spell ts

end

/-- The text with full names. -/
def text (t : TypeExpr) : String := render QualifiedName.text t

/-- The text with short names, for use where the imports make them known. -/
def shortText (t : TypeExpr) : String := render QualifiedName.shortText t

/-- A type without arguments. -/
def ofName (n : QualifiedName) : TypeExpr := { name := n }

/-- The type without its arguments. -/
def base (t : TypeExpr) : TypeExpr := ofName t.name

/-- The type by its simple name, with its arguments as they are. -/
def unqualified (t : TypeExpr) : TypeExpr := { t with name := t.name.unqualified }

/-- The type that an import names: no arguments, no array brackets. -/
def element (t : TypeExpr) : TypeExpr := ofName t.name.element

/-- The type applied to one more argument. -/
def apply (t : TypeExpr) (argument : TypeExpr) : TypeExpr :=
  { t with arguments := t.arguments ++ [argument] }

/-- Whether two types have the same name, whatever their arguments. -/
def sameBase (a b : TypeExpr) : Bool := a.name == b.name

/-- The wrapper class of a primitive type; any other type, arrays of primitives included, as it
is. -/
def boxed (t : TypeExpr) : TypeExpr :=
  if t.name.scope = [] ∧ t.name.rank = 0 then
    match QualifiedName.wrapper? t.name.simple.text with
    | some wrapper => ofName (.implicit wrapper)
    | none => t
  else t

theorem renderAll_eq_map (spell : QualifiedName → String) (ts : List TypeExpr) :
    renderAll spell ts = ts.map (render spell) := by
  induction ts with
  | nil => rfl
  | cons t ts ih => simp [renderAll, ih]

end TypeExpr

end RecordSynth
