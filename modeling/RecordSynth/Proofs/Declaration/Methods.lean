import Mathlib
import RecordSynth.Declaration.Methods
import RecordSynth.Proofs.Pass.Hooks
/-!
# Which methods are meant

Looking up a method, changing it and patching all of its kind go through the methods of a declaration
in different ways, and go by one relation: `Method.Matches`. The relation does not see bodies, so a
patched declaration is searched with the same outcome, and it does not see type arguments, so these
may be exchanged everywhere: `Declaration.patch_agrees_with_search`.
-/

namespace RecordSynth

/-! ## The last element with a property -/

section

variable {α β : Type} {P : α → Prop} {as : List α}

/-- The last element with a property stands at this index; without an index no element has it. -/
inductive LastAt (P : α → Prop) (as : List α) : Option Nat → Prop
  | nowhere (absent : ∀ a ∈ as, ¬ P a) : LastAt P as none
  | here {i : Nat} {a : α} (at_ : as[i]? = some a) (holds : P a)
    (behind : ∀ j b, i < j → as[j]? = some b → ¬ P b) : LastAt P as (some i)

theorem exists_lastAt (P : α → Prop) (as : List α) : ∃ s, LastAt P as s := by
  induction as with
  | nil => exact ⟨none, .nowhere nofun⟩
  | cons a as ih =>
    obtain ⟨s, last⟩ := ih
    cases last with
    | nowhere absent =>
      by_cases first : P a
      · refine ⟨some 0, .here rfl first ?_⟩
        rintro (_ | j) b less found
        · cases less
        · exact absent b (List.mem_of_getElem? found)
      · refine ⟨none, .nowhere ?_⟩
        rw [List.forall_mem_cons]
        exact ⟨first, absent⟩
    | @here i c found holds behind =>
      refine ⟨some (i + 1), .here found holds ?_⟩
      rintro (_ | j) b less later
      · cases less
      · exact behind j b (Nat.lt_of_succ_lt_succ less) later

/-- The last of the elements that pass a test is where the last one stands. -/
theorem LastAt.getLast?_filter {p : α → Bool} {s : Option Nat} (last : LastAt (p · = true) as s) :
    (as.filter p).getLast? = s.bind (as[·]?) := by
  cases last with
  | nowhere absent =>
    rw [List.filter_eq_nil_iff.2 absent]
    rfl
  | @here i a found holds behind =>
    obtain ⟨inside, rfl⟩ := List.getElem?_eq_some_iff.1 found
    have later : (as.drop (i + 1)).filter p = [] := by
      rw [List.filter_eq_nil_iff]
      intro b member
      obtain ⟨j, found'⟩ := List.mem_iff_getElem?.1 member
      rw [List.getElem?_drop] at found'
      exact behind _ b (by omega) found'
    have parts : as = as.take i ++ as[i] :: as.drop (i + 1) := by
      rw [← List.drop_eq_getElem_cons inside, List.take_append_drop]
    rw [parts, List.filter_append, List.filter_cons_of_pos holds, later, ← parts]
    simp [found]

theorem modifyLastWhere_eq_modify {p : α → Bool} {i : Nat} {a : α} (f : α → α)
    (found : as[i]? = some a) (holds : p a = true)
    (behind : ∀ j b, i < j → as[j]? = some b → ¬ p b = true) :
    modifyLastWhere p f as = as.modify i f := by
  induction as generalizing i with
  | nil => cases found
  | cons b as ih =>
    rw [modifyLastWhere]
    cases i with
    | zero =>
      obtain rfl : b = a := Option.some.inj found
      have alone : as.any p = false := by
        rw [List.any_eq_false]
        intro c member
        obtain ⟨j, later⟩ := List.mem_iff_getElem?.1 member
        exact behind (j + 1) c (Nat.succ_pos j) later
      simp [holds, alone]
    | succ i =>
      have more : as.any p = true := List.any_eq_true.2 ⟨a, List.mem_of_getElem? found, holds⟩
      rw [if_neg (by simp [more]), List.modify_succ_cons, ih found]
      intro j c less later
      exact behind (j + 1) c (Nat.succ_lt_succ less) later

/-- Changing the last of the elements that pass a test changes the one where the last stands. -/
theorem LastAt.modifyLastWhere_eq {p : α → Bool} {s : Option Nat}
    (last : LastAt (p · = true) as s) (f : α → α) :
    modifyLastWhere p f as = s.elim as fun i => as.modify i f := by
  cases last with
  | nowhere absent => exact modifyLastWhere_eq_self (List.any_eq_false.2 absent)
  | here found holds behind => exact modifyLastWhere_eq_modify f found holds behind

theorem exists_of_forall₂ {R : α → β → Prop} {bs : List β} (each : List.Forall₂ R as bs) {j : Nat}
    {a : α} (found : as[j]? = some a) : ∃ b, bs[j]? = some b ∧ R a b := by
  induction each generalizing j with
  | nil => cases found
  | @cons c b as bs head _ ih =>
    cases j with
    | zero =>
      obtain rfl : c = a := Option.some.inj found
      exact ⟨b, rfl, head⟩
    | succ j => exact ih found

/-- Lists of elements that correspond have their last ones at the same index. -/
theorem LastAt.of_forall₂ {Q : β → Prop} {bs : List β} {s : Option Nat}
    (each : List.Forall₂ (fun a b => P a ↔ Q b) as bs) (last : LastAt P as s) :
    LastAt Q bs s := by
  have back : List.Forall₂ (fun b a => P a ↔ Q b) bs as := each.flip
  cases last with
  | nowhere absent =>
    refine .nowhere ?_
    intro b member holds
    obtain ⟨j, found⟩ := List.mem_iff_getElem?.1 member
    obtain ⟨a, found', same⟩ := exists_of_forall₂ back found
    exact absent a (List.mem_of_getElem? found') (same.2 holds)
  | here found holds behind =>
    obtain ⟨b, found', same⟩ := exists_of_forall₂ each found
    refine .here found' (same.1 holds) ?_
    intro j c less later holds'
    obtain ⟨a', later', same'⟩ := exists_of_forall₂ back later
    exact behind j a' less later' (same'.2 holds')

end

/-! ## Methods that match -/

/-- The method has this name, and some parameter of a type with the same qualified name. -/
def Method.Matches (m : Method) (name : String) (param : TypeExpr) : Prop :=
  m.name = name ∧ ∃ p ∈ m.parameters, p.type.name = param.name

namespace Method

variable {m n : Method} {name : String} {param : TypeExpr}

theorem hasSignature_iff : m.hasSignature name param = true ↔ m.Matches name param := by
  simp [hasSignature, Matches, hasParameterOf, TypeExpr.sameBase]

instance : Decidable (m.Matches name param) := decidable_of_iff _ hasSignature_iff

/-- The type arguments of the parameter that is searched do not matter. -/
theorem hasSignature_congr {param' : TypeExpr} (same : param'.name = param.name) (m : Method) :
    m.hasSignature name param' = m.hasSignature name param := by
  simp only [hasSignature, hasParameterOf, TypeExpr.sameBase, same]

theorem matches_congr {param' : TypeExpr} (same : param'.name = param.name) (m : Method) :
    m.Matches name param' ↔ m.Matches name param := by
  rw [Matches, Matches, same]

/-- The method with other type arguments in the types of its parameters. -/
structure Retyped (m n : Method) : Prop where
  parameters : List.Forall₂ (fun p q => q.name = p.name ∧ q.type.name = p.type.name)
    m.parameters n.parameters
  others : n = { m with parameters := n.parameters }

theorem Retyped.matches_iff (retyped : Retyped m n) :
    m.Matches name param ↔ n.Matches name param := by
  have named : n.name = m.name := by rw [retyped.others]
  have typed : ∀ {ps qs : List Parameter},
      List.Forall₂ (fun p q => q.name = p.name ∧ q.type.name = p.type.name) ps qs →
        ((∃ p ∈ ps, p.type.name = param.name) ↔ ∃ q ∈ qs, q.type.name = param.name) := by
    intro ps qs each
    induction each with
    | nil => rfl
    | cons head _ ih => rw [List.exists_mem_cons_iff, List.exists_mem_cons_iff, head.2, ih]
  rw [Matches, Matches, named, typed retyped.parameters]

theorem Retyped.prependBody (retyped : Retyped m n) (lines : List String) :
    Retyped (m.prependBody lines) (n.prependBody lines) := by
  refine ⟨retyped.parameters, ?_⟩
  rw [retyped.others]
  rfl

end Method

namespace Declaration

variable {d e : Declaration} {name : String} {param : TypeExpr} {lines : List String}

/-- The last method that matches stands at this index; without an index none does. -/
def Selects (d : Declaration) (name : String) (param : TypeExpr) : Option Nat → Prop :=
  LastAt (·.Matches name param) d.methods

/-- The declaration with lines in front of the bodies of the methods that match, and all else as it
is. -/
structure Patched (name : String) (param : TypeExpr) (lines : List String)
    (d e : Declaration) : Prop where
  methods : List.Forall₂ (fun m n : Method =>
    n = if m.Matches name param then { m with bodyLines := lines ++ m.bodyLines } else m)
    d.methods e.methods
  others : e = { d with methods := e.methods }

/-- The declaration with other type arguments in the types of parameters of methods. -/
structure Retyped (d e : Declaration) : Prop where
  methods : List.Forall₂ Method.Retyped d.methods e.methods
  others : e = { d with methods := e.methods }

theorem Selects.lastAt {s : Option Nat} (selects : d.Selects name param s) :
    LastAt (·.hasSignature name param = true) d.methods s := by
  rw [Selects] at selects
  simpa only [Method.hasSignature_iff] using selects

theorem findMethod?_eq {s : Option Nat} (selects : d.Selects name param s) :
    d.findMethod? name param = s.bind (d.methods[·]?) :=
  selects.lastAt.getLast?_filter

theorem modifyMethod_eq {s : Option Nat} (selects : d.Selects name param s)
    (f : Method → Method) :
    d.modifyMethod name param f =
      { d with methods := s.elim d.methods fun i => d.methods.modify i f } := by
  rw [modifyMethod, selects.lastAt.modifyLastWhere_eq f]

/-- A search goes to this index: looking up gives the method there, and changing changes that one
alone; without an index there is nothing to give or to change. -/
structure Finds (d : Declaration) (name : String) (param : TypeExpr) (s : Option Nat) : Prop where
  selects : d.Selects name param s
  lookup : d.findMethod? name param = s.bind (d.methods[·]?)
  change : ∀ f, d.modifyMethod name param f =
    { d with methods := s.elim d.methods fun i => d.methods.modify i f }

theorem Selects.finds {s : Option Nat} (selects : d.Selects name param s) : d.Finds name param s :=
  ⟨selects, findMethod?_eq selects, modifyMethod_eq selects⟩

/-! ## Patching -/

theorem patched_prependBody (d : Declaration) (name : String) (param : TypeExpr)
    (lines : List String) : Patched name param lines d (d.prependBody name param lines) := by
  refine ⟨?_, rfl⟩
  rw [prependBody, List.forall₂_map_right_iff, List.forall₂_same]
  intro m _
  simp only [Method.hasSignature_iff]
  rfl

theorem Patched.selects (patched : Patched name param lines d e) {s : Option Nat}
    (selects : d.Selects name param s) : e.Selects name param s := by
  refine selects.of_forall₂ (patched.methods.imp ?_)
  rintro m _ rfl
  split <;> rfl

theorem countMethods_eq (d : Declaration) (name : String) (param : TypeExpr) :
    d.countMethods name param = (d.methods.filter (·.Matches name param)).length := by
  rw [countMethods, List.countP_eq_length_filter]
  simp only [← Method.hasSignature_iff, Bool.decide_eq_true]

/-- A patch says how many methods match and patches these. -/
structure Patches (m : Type → Type) [Monad m] [MonadJournal m] (d : Declaration) (name : String)
    (param : TypeExpr) (lines : List String) (count : Nat) (e : Declaration) : Prop where
  gives : Gives (d.patchBodies name param lines : m (Nat × Declaration)) (count, e)
  counted : count = (d.methods.filter (·.Matches name param)).length
  patched : Patched name param lines d e

theorem patches_prependBody {m : Type → Type} [Monad m] [LawfulMonad m] [MonadJournal m]
    (d : Declaration) (name : String) (param : TypeExpr) (lines : List String) :
    Patches m d name param lines (d.countMethods name param) (d.prependBody name param lines) where
  gives := .bind (.note _ _) (.pure _)
  counted := d.countMethods_eq name param
  patched := d.patched_prependBody name param lines

/-- Some methods match just if one is found. -/
theorem countMethods_pos_iff :
    0 < d.countMethods name param ↔ (d.findMethod? name param).isSome := by
  rw [countMethods, findMethod?, List.countP_eq_length_filter, List.length_pos_iff,
    List.getLast?_isSome]

theorem findMethod?_prependBody (d : Declaration) :
    (d.prependBody name param lines).findMethod? name param =
      (d.findMethod? name param).map (·.prependBody lines) := by
  obtain ⟨s, selects⟩ := exists_lastAt (·.Matches name param) d.methods
  have selects' := (d.patched_prependBody name param lines).selects selects
  rw [findMethod?_eq selects, findMethod?_eq selects']
  cases selects with
  | nowhere => rfl
  | here found matching =>
    have signature := Method.hasSignature_iff.2 matching
    simp [prependBody, found, signature]

theorem countMethods_prependBody (d : Declaration) :
    (d.prependBody name param lines).countMethods name param = d.countMethods name param := by
  rw [countMethods, countMethods, prependBody, List.countP_map]
  refine List.countP_congr ?_
  intro m _
  dsimp only [Function.comp_apply]
  split <;> rfl

/-- What is put in front later stands further in front. -/
theorem prependBody_prependBody (d : Declaration) (more : List String) :
    (d.prependBody name param lines).prependBody name param more =
      d.prependBody name param (more ++ lines) := by
  simp only [prependBody, List.map_map]
  congr 1
  refine List.map_congr_left ?_
  intro m _
  dsimp only [Function.comp_apply]
  by_cases matching : m.hasSignature name param = true
  · have still : (m.prependBody lines).hasSignature name param = true := matching
    rw [if_pos matching, if_pos matching, if_pos still]
    simp only [Method.prependBody, List.append_assoc]
  · rw [if_neg matching, if_neg matching, if_neg matching]

/-! ## Other type arguments -/

theorem Retyped.selects (retyped : d.Retyped e) {s : Option Nat}
    (selects : d.Selects name param s) : e.Selects name param s :=
  selects.of_forall₂ (retyped.methods.imp fun _ _ same => same.matches_iff)

theorem Retyped.countMethods (retyped : d.Retyped e) :
    e.countMethods name param = d.countMethods name param := by
  rw [countMethods_eq, countMethods_eq]
  refine (List.rel_filter ?_ retyped.methods).length_eq.symm
  intro m n same
  simp only [decide_eq_true_eq]
  exact same.matches_iff

theorem Retyped.prependBody (retyped : d.Retyped e) (lines : List String) :
    (d.prependBody name param lines).Retyped (e.prependBody name param lines) := by
  refine ⟨List.rel_map ?_ retyped.methods, ?_⟩
  · intro m n same
    simp only [Method.hasSignature_iff, same.matches_iff]
    split
    · exact same.prependBody lines
    · exact same
  · rw [retyped.others]
    rfl

/-- A search goes to the last method that matches, and a patch to all of them: it says how many they
are, and there are some just if the search finds one. After the patch the search goes to the same
index and gives the same method with the lines in front of its body, and another patch puts its lines
in front of these. The type arguments of the parameter that is searched, and those of the parameters
of methods, change none of this. -/
theorem patch_agrees_with_search {m : Type → Type} [Monad m] [LawfulMonad m] [MonadJournal m]
    (d : Declaration) (name : String) (param : TypeExpr) (lines : List String) :
    ∃ s count e, d.Finds name param s ∧ Patches m d name param lines count e ∧
      (0 < count ↔ (d.findMethod? name param).isSome) ∧
      e.Finds name param s ∧
      e.findMethod? name param = (d.findMethod? name param).map (fun n =>
        { n with bodyLines := lines ++ n.bodyLines }) ∧
      (∀ more, ∃ twice, Patches m e name param more count twice ∧
        Patches m d name param (more ++ lines) count twice) ∧
      (∀ param' : TypeExpr, param'.name = param.name →
        d.Finds name param' s ∧ Patches m d name param' lines count e) ∧
      ∀ d', d.Retyped d' → d'.Finds name param s ∧
        ∃ e', Patches m d' name param lines count e' ∧ e.Retyped e' := by
  obtain ⟨s, last⟩ := exists_lastAt (·.Matches name param) d.methods
  have selects : d.Selects name param s := last
  have patched := d.patched_prependBody name param lines
  refine ⟨s, d.countMethods name param, d.prependBody name param lines, selects.finds,
    patches_prependBody d name param lines, countMethods_pos_iff, (patched.selects selects).finds,
    ?_, ?_, ?_, ?_⟩
  · exact findMethod?_prependBody d
  · intro more
    refine ⟨(d.prependBody name param lines).prependBody name param more, ?_, ?_⟩
    · have again := patches_prependBody (m := m) (d.prependBody name param lines) name param more
      rwa [countMethods_prependBody] at again
    · rw [prependBody_prependBody]
      exact patches_prependBody d name param (more ++ lines)
  · intro param' same
    have selects' : d.Selects name param' s := by
      simpa only [Selects, Method.matches_congr same] using selects
    have alike := patches_prependBody (m := m) d name param' lines
    simp only [countMethods, prependBody, Method.hasSignature_congr same] at alike
    exact ⟨selects'.finds, alike⟩
  · intro d' retyped
    refine ⟨(retyped.selects selects).finds, d'.prependBody name param lines, ?_,
      retyped.prependBody lines⟩
    have others := patches_prependBody (m := m) d' name param lines
    rwa [retyped.countMethods] at others

/-- Of two methods that match, both are patched and the second one is found. -/
theorem patch_agrees_with_search_overloaded :
    let user : TypeExpr := .ofName { scope := [], simple := ⟨"User", by decide⟩ }
    let int : TypeExpr := .ofName { scope := [], simple := ⟨"int", by decide⟩ }
    let one : Method := { name := "save", parameters := [⟨"u", user⟩], bodyLines := ["put(u);"] }
    let many : Method :=
      { name := "save", parameters := [⟨"n", int⟩, ⟨"u", user.apply int⟩]
        bodyLines := ["put(n, u);"] }
    let d : Declaration :=
      { name := { scope := [], simple := ⟨"Store", by decide⟩ }, kind := .classType
        methods := [one, many, { one with name := "load" }] }
    ∃ e, (d.patchBodies "save" user ["check(u);"] : Id (Nat × Declaration)) = (2, e) ∧
      d.findMethod? "save" user = some many ∧
      e.findMethod? "save" user = some { many with bodyLines := ["check(u);", "put(n, u);"] } := by
  intro user int one many d
  obtain ⟨s, n, e, -, patches, -, -, found, -⟩ :=
    patch_agrees_with_search (m := Id) d "save" user ["check(u);"]
  obtain ⟨journal, given⟩ := patches.gives
  have two : n = 2 := patches.counted.trans (by decide)
  have last : d.findMethod? "save" user = some many := by decide
  refine ⟨e, ?_, last, ?_⟩
  · rw [given, two]
    rfl
  · rw [found, last]
    rfl

end Declaration

end RecordSynth
