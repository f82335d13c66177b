import RecordSynth.Declaration.Markers
import RecordSynth.Proofs.Declaration.TypeSet
/-!
# What a declaration imports

What a type asks for are the names that occur in it, in arguments at any depth too, and lie in some
other package than the implicit one and that of the declaration. They are added to the imports in
the order in which they occur. What is written in a declaration refers to the same occurrences.
-/

namespace RecordSynth

/-! ## Occurrences -/

namespace TypeExpr

mutual

/-- The types that occur in a type: itself, then what occurs in its arguments from left to right. -/
def occurrences : TypeExpr → List TypeExpr
  | ⟨n, args⟩ => ⟨n, args⟩ :: occurrencesAll args

/-- The types that occur in several types. -/
def occurrencesAll : List TypeExpr → List TypeExpr
  | [] => []
  | t :: ts => t.occurrences ++ occurrencesAll ts

end

/-- Whether a type lies in a package that is neither the implicit one nor the given one. -/
def Foreign (scope : List Identifier) (t : TypeExpr) : Prop :=
  t.name.scope ≠ [] ∧ t.name.scope ≠ QualifiedName.implicitScope ∧ t.name.scope ≠ scope

instance (scope : List Identifier) (t : TypeExpr) : Decidable (Foreign scope t) :=
  inferInstanceAs (Decidable (_ ∧ _))

theorem foreign_iff {scope : List Identifier} {t : TypeExpr} :
    Foreign scope t ↔ t.name.needsImport = true ∧ t.name.scope ≠ scope := by
  simp [Foreign, QualifiedName.needsImport, and_assoc]

/-- The names that a type asks to be imported into a package, with repetitions. -/
def foreignNames (scope : List Identifier) (t : TypeExpr) : List QualifiedName :=
  (t.occurrences.filter fun u => decide (Foreign scope u)).map (·.name.element)

/-- The names that several types ask to be imported. -/
def foreignNamesAll (scope : List Identifier) (ts : List TypeExpr) : List QualifiedName :=
  ((occurrencesAll ts).filter fun u => decide (Foreign scope u)).map (·.name.element)

theorem foreignNamesAll_cons (scope : List Identifier) (t : TypeExpr) (ts : List TypeExpr) :
    foreignNamesAll scope (t :: ts) = foreignNames scope t ++ foreignNamesAll scope ts := by
  rw [foreignNamesAll, occurrencesAll, List.filter_append, List.map_append]
  rfl

theorem foreignNames_mk (scope : List Identifier) (n : QualifiedName) (ts : List TypeExpr) :
    foreignNames scope ⟨n, ts⟩ = (if Foreign scope ⟨n, ts⟩ then [n.element] else []) ++
      foreignNamesAll scope ts := by
  rw [foreignNames, occurrences, List.filter_cons]
  by_cases asked : Foreign scope ⟨n, ts⟩
  · simp [asked, foreignNamesAll]
  · simp [asked, foreignNamesAll]

mutual

theorem importsFrom_eq (scope : List Identifier) (t : TypeExpr) :
    t.importsFrom scope = (t.foreignNames scope).map ofName := by
  match t with
  | ⟨n, ts⟩ =>
    have inner := importsFromAll_eq scope ts
    rw [importsFrom, inner, foreignNames_mk]
    by_cases asked : Foreign scope ⟨n, ts⟩
    · rw [if_pos asked, if_pos (foreign_iff.1 asked)]
      rfl
    · rw [if_neg asked, if_neg fun both => asked (foreign_iff.2 both)]
      rfl

theorem importsFromAll_eq (scope : List Identifier) (ts : List TypeExpr) :
    importsFromAll scope ts = (foreignNamesAll scope ts).map ofName := by
  match ts with
  | [] => rfl
  | t :: ts =>
    rw [importsFromAll, importsFrom_eq scope t, importsFromAll_eq scope ts, foreignNamesAll_cons,
      List.map_append]

end

theorem mem_foreignNames {scope : List Identifier} {t : TypeExpr} {n : QualifiedName} :
    n ∈ t.foreignNames scope ↔ ∃ u ∈ t.occurrences, Foreign scope u ∧ u.name.element = n := by
  simp only [foreignNames, List.mem_map, List.mem_filter, decide_eq_true_eq, and_assoc]

theorem foreignNames_ofName (scope : List Identifier) (n : QualifiedName) :
    (ofName n).foreignNames scope = if Foreign scope (ofName n) then [n.element] else [] := by
  rw [ofName, foreignNames_mk]
  exact List.append_nil _

/-- A type without arguments and brackets asks for itself. -/
theorem importsFrom_of_plain {t : TypeExpr} (plain : t = ofName t.name.element)
    (scope : List Identifier) : t.importsFrom scope = if t.Foreign scope then [t] else [] := by
  have asked : (ofName t.name.element).importsFrom scope =
      if (ofName t.name.element).Foreign scope then [ofName t.name.element] else [] := by
    rw [importsFrom_eq, foreignNames_ofName]
    split <;> rfl
  rwa [← plain] at asked

theorem importsFromAll_eq_flatMap (scope : List Identifier) (ts : List TypeExpr) :
    importsFromAll scope ts = ts.flatMap (·.importsFrom scope) := by
  induction ts with
  | nil => rfl
  | cons t ts ih => rw [importsFromAll, ih, List.flatMap_cons]

end TypeExpr

/-! ## Declarations -/

namespace Declaration

/-- Requests one after another ask for what all the types ask for. -/
theorem foldl_addImport (d : Declaration) (ts : List TypeExpr) :
    ts.foldl addImport d = { d with
      imports := (ts.flatMap (·.importsFrom d.name.scope)).foldl TypeSet.insert d.imports } := by
  induction ts generalizing d with
  | nil =>
    cases d
    rfl
  | cons t ts ih =>
    rw [List.foldl_cons, ih, List.flatMap_cons, List.foldl_append]
    rfl

/-- The types written in a declaration outside of bodies and annotations: supertypes, types of
fields, then parameters and results of methods. -/
def writtenTypes (d : Declaration) : List TypeExpr :=
  d.superType.toList ++ d.superInterfaces.types ++ d.fields.map (·.type) ++
    d.methods.flatMap fun m => m.parameters.map (·.type) ++ m.returnType.toList

/-- What occurs in the types written in a declaration. -/
def references (d : Declaration) : List TypeExpr := d.writtenTypes.flatMap (·.occurrences)

theorem mem_references {d : Declaration} {t : TypeExpr} :
    t ∈ d.references ↔ ∃ r ∈ d.writtenTypes, t ∈ r.occurrences := List.mem_flatMap

/-- A name that a written type asks for is that of a reference. -/
theorem exists_reference {d : Declaration} {r : TypeExpr} {n : QualifiedName}
    (written : r ∈ d.writtenTypes) (asked : n ∈ r.foreignNames d.name.scope) :
    ∃ t ∈ d.references, t.element = TypeExpr.ofName n := by
  obtain ⟨t, inside, -, rfl⟩ := TypeExpr.mem_foreignNames.1 asked
  exact ⟨t, mem_references.2 ⟨r, written, inside⟩, rfl⟩

end Declaration

end RecordSynth
