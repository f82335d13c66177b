import RecordSynth.Declaration
import RecordSynth.Journal
/-!
# Finding and patching methods

A method is found by its name and the base of one of its parameters. Of several that match, looking
up takes the last, while patching changes all.
-/

namespace RecordSynth

/-- Whether a method has a name and a parameter of a type. -/
def Method.hasSignature (m : Method) (name : String) (param : TypeExpr) : Bool :=
  m.name == name && m.hasParameterOf param

/-- The method with lines in front of its body. -/
def Method.prependBody (lines : List String) (m : Method) : Method :=
  { m with bodyLines := lines ++ m.bodyLines }

/-- The method as a handler that answers requests: public, and with its result as the body of the
answer, which for REST handlers goes without saying. -/
def Method.asHandler (rest : Bool) (m : Method) : Method :=
  { m with
    annotations := if rest then m.annotations else m.annotations ++ ["@ResponseBody"]
    visibility := .publicAccess }

/-- Changes the last element that passes a test. -/
def modifyLastWhere {α : Type} (p : α → Bool) (f : α → α) : List α → List α
  | [] => []
  | a :: as => if p a && !as.any p then f a :: as else a :: modifyLastWhere p f as

/-- Where no element passes the test nothing changes. -/
theorem modifyLastWhere_eq_self {α : Type} {p : α → Bool} {f : α → α} {as : List α}
    (h : as.any p = false) : modifyLastWhere p f as = as := by
  induction as with
  | nil => rfl
  | cons a as ih =>
    simp only [List.any_cons, Bool.or_eq_false_iff] at h
    simp [modifyLastWhere, h.1, ih h.2]

namespace Declaration

/-- The last method of a name with a parameter of a type. -/
def findMethod? (d : Declaration) (name : String) (param : TypeExpr) : Option Method :=
  (d.methods.filter (·.hasSignature name param)).getLast?

/-- The declaration with the method that `findMethod?` finds changed. -/
def modifyMethod (d : Declaration) (name : String) (param : TypeExpr) (f : Method → Method) :
    Declaration :=
  { d with methods := modifyLastWhere (·.hasSignature name param) f d.methods }

/-- The number of methods of a name with a parameter of a type. -/
def countMethods (d : Declaration) (name : String) (param : TypeExpr) : Nat :=
  d.methods.countP (·.hasSignature name param)

/-- The declaration with lines in front of the bodies of all methods of a name with a parameter of a
type. -/
def prependBody (d : Declaration) (name : String) (param : TypeExpr) (lines : List String) :
    Declaration :=
  { d with
    methods := d.methods.map fun m =>
      if m.hasSignature name param then m.prependBody lines else m }

/-- Puts lines in front of the bodies of all methods of a name with a parameter of a type, and says
how many these are. -/
def patchBodies {m : Type → Type} [Monad m] [MonadJournal m] (d : Declaration) (name : String)
    (param : TypeExpr) (lines : List String) : m (Nat × Declaration) := do
  let patched := d.countMethods name param
  note .debug (d.name.text ++ ": prepended " ++ toString lines.length ++ " line(s) to " ++
    toString patched ++ " method(s) named '" ++ name ++ "'")
  return (patched, d.prependBody name param lines)

end Declaration

end RecordSynth
