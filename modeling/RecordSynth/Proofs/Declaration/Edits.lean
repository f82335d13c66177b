import RecordSynth.Declaration.Methods
import RecordSynth.Proofs.Pass.BuiltIn
import RecordSynth.Proofs.Declaration.Imports
import RecordSynth.Proofs.Declaration.Markers
import RecordSynth.Proofs.Declaration.TypeSet
/-!
# Declarations under edits

Declarations are changed one edit after another, at the root or at any nested declaration. Whatever
the edits and their order, each declaration keeps its place and its type, its imports stay plain
types of other packages, and neither imports nor super-interfaces name a type twice. One edit is
followed through the tree in `Edit.gives_apply`, and a whole script in `Script.gives_run`.
-/

namespace RecordSynth

/-! ## Places in a tree -/

namespace Declaration

/-- The declaration at a place: the indices of the nested declarations to go through from the
root. -/
def at? : List Nat → Declaration → Option Declaration
  | [], d => some d
  | i :: place, d => d.nested[i]?.bind (at? place)

/-- Changes the declaration at a place; where there is none, nothing happens. -/
def changeAt {m : Type → Type} [Monad m] (change : Declaration → m Declaration) :
    List Nat → Declaration → m Declaration
  | [], d => change d
  | i :: place, d =>
    match d.nested[i]? with
    | none => pure d
    | some inner => do
      let changed ← changeAt change place inner
      return { d with nested := d.nested.set i changed }

/-- All declarations of the tree have the property. -/
def Throughout (P : Declaration → Prop) (d : Declaration) : Prop :=
  ∀ place x, d.at? place = some x → P x

theorem throughout_iff {P : Declaration → Prop} {d : Declaration} :
    d.Throughout P ↔ P d ∧ ∀ n ∈ d.nested, n.Throughout P := by
  constructor
  · intro all
    refine ⟨all [] d rfl, ?_⟩
    intro n member place x found
    obtain ⟨i, below, rfl⟩ := List.mem_iff_getElem.1 member
    refine all (i :: place) x ?_
    rw [at?, List.getElem?_eq_getElem below]
    exact found
  · rintro ⟨root, inner⟩ place x found
    cases place with
    | nil =>
      obtain rfl := Option.some.inj found
      exact root
    | cons i place =>
      rw [at?, Option.bind_eq_some_iff] at found
      obtain ⟨n, among, below⟩ := found
      exact inner n (List.mem_of_getElem? among) place x below

end Declaration

/-! ## Edits -/

mutual

/-- One change of a declaration. -/
inductive Edit where
  | addSuperInterface (t : TypeExpr)
  | addImport (t : TypeExpr)
  | removeImport (name : String)
  | annotate (line : String)
  | addField (f : Field)
  | addMethod (m : Method)
  /-- A declaration of a type, edited on its own, becomes the last nested one. -/
  | addNested (kind : DeclarationKind) (t : TypeExpr) (script : Script)
  | stripMarker (marker : String)
  | stripGenerator
  | prependBody (name : String) (param : TypeExpr) (lines : List String)
  /-- The method with an index becomes a handler. -/
  | makeHandler (index : Nat) (rest : Bool)
  | decorate (columns : List Column) (s : DomainSettings)
  /-- The field with an index is decorated for a column. -/
  | decorateField (index : Nat) (c : Column) (s : DomainSettings)

/-- Edits in order, each at a place of the tree. -/
inductive Script where
  | done
  | step (place : List Nat) (edit : Edit) (rest : Script)

end

section

variable {m : Type → Type} [Monad m] [MonadJournal m]

mutual

/-- Makes an edit. -/
def Edit.apply : Edit → Declaration → m Declaration
  | .addSuperInterface t, d => pure (d.addSuperInterface t)
  | .addImport t, d => pure (d.addImport t)
  | .removeImport name, d => pure (d.removeImport name)
  | .annotate line, d => pure (d.annotate line)
  | .addField f, d => pure (d.addField f)
  | .addMethod method, d => pure (d.addMethod method)
  | .addNested kind t script, d => do
    let inner ← script.run (.ofType kind t)
    return d.addNested inner
  | .stripMarker marker, d => pure (d.stripMarker marker)
  | .stripGenerator, d => d.stripGenerator
  | .prependBody name param lines, d => do
    let (_, patched) ← d.patchBodies name param lines
    return patched
  | .makeHandler index rest, d =>
    pure { d with methods := d.methods.modify index (Method.asHandler rest) }
  | .decorate columns s, d => d.decorate columns s
  | .decorateField index c s, d =>
    match d.fields[index]? with
    | none => pure d
    | some f => do
      let decorated ← f.decorate c s
      return { d with fields := d.fields.set index decorated }

/-- Makes the edits of a script. -/
def Script.run : Script → Declaration → m Declaration
  | .done, d => pure d
  | .step place edit rest, d => do
    let changed ← d.changeAt edit.apply place
    rest.run changed

end

end

/-! ## What edits keep -/

namespace Declaration

/-- The sets of the declaration are in order. -/
structure Sound (d : Declaration) : Prop where
  /-- No two imports have the same name. -/
  importsDiffer : (d.imports.types.map (·.name)).Nodup
  /-- Imports have no arguments and no brackets, and lie in a package that is neither the implicit
  one nor that of the declaration; so none of them is primitive. -/
  importsPlain : ∀ t ∈ d.imports.types, t.arguments = [] ∧ t.name.rank = 0 ∧
    t.Foreign d.name.scope ∧ t.name.isPrimitive = false
  /-- No two super-interfaces have the same name. -/
  parentsDiffer : (d.superInterfaces.types.map (·.name)).Nodup

variable {d e : Declaration}

/-- Only the name and the sets of a declaration matter. -/
theorem Sound.of_sets (sound : d.Sound) (name : e.name = d.name) (imports : e.imports = d.imports)
    (parents : e.superInterfaces = d.superInterfaces) : e.Sound where
  importsDiffer := by
    rw [imports]
    exact sound.importsDiffer
  importsPlain := by
    rw [imports, name]
    exact sound.importsPlain
  parentsDiffer := by
    rw [parents]
    exact sound.parentsDiffer

theorem sound_ofType (kind : DeclarationKind) (t : TypeExpr) : (ofType kind t).Sound where
  importsDiffer := List.nodup_nil
  importsPlain _ member := nomatch member
  parentsDiffer := List.nodup_nil

theorem Sound.addSuperInterface (sound : d.Sound) (t : TypeExpr) : (d.addSuperInterface t).Sound :=
  { sound with parentsDiffer := TypeSet.nodup_insert sound.parentsDiffer t }

theorem Sound.removeImport (sound : d.Sound) (name : String) : (d.removeImport name).Sound where
  importsDiffer := TypeSet.nodup_erase sound.importsDiffer name
  importsPlain t member := sound.importsPlain t (List.mem_of_mem_filter member)
  parentsDiffer := sound.parentsDiffer

/-- A type of another package may be imported by its name. -/
theorem Sound.insertImport (sound : d.Sound) {n : QualifiedName} (flat : n.rank = 0)
    (foreign : (TypeExpr.ofName n).Foreign d.name.scope) :
    { d with imports := d.imports.insert (.ofName n) }.Sound where
  importsDiffer := TypeSet.nodup_insert sound.importsDiffer _
  importsPlain := by
    intro t member
    rcases TypeSet.mem_insert member with before | rfl
    · exact sound.importsPlain t before
    · have packaged : n.scope ≠ [] := foreign.1
      have notPrimitive : n.isPrimitive = false := by simp [QualifiedName.isPrimitive, packaged]
      exact ⟨rfl, flat, foreign, notPrimitive⟩
  parentsDiffer := sound.parentsDiffer

/-- What a type asks for is imported name by name. -/
theorem Sound.addImport (sound : d.Sound) (t : TypeExpr) : (d.addImport t).Sound := by
  have step : ∀ ns : List QualifiedName,
      (∀ n ∈ ns, n.rank = 0 ∧ (TypeExpr.ofName n).Foreign d.name.scope) →
      ∀ s : TypeSet, { d with imports := s }.Sound →
        { d with imports := (ns.map TypeExpr.ofName).foldl TypeSet.insert s }.Sound := by
    intro ns
    induction ns with
    | nil =>
      intro _ s kept
      exact kept
    | cons n ns ih =>
      intro plain s kept
      obtain ⟨flat, foreign⟩ := plain n List.mem_cons_self
      have added := kept.insertImport flat foreign
      exact ih (fun k member => plain k (List.mem_cons_of_mem n member)) _ added
  rw [Declaration.addImport, TypeExpr.importsFrom_eq]
  refine step _ ?_ _ (sound.of_sets rfl rfl rfl)
  intro n asked
  obtain ⟨u, -, foreign, rfl⟩ := TypeExpr.mem_foreignNames.1 asked
  exact ⟨rfl, foreign⟩

theorem Sound.decorated (sound : d.Sound) (s : DomainSettings) (columns : List Column) :
    (d.decorated s columns).Sound := by
  have marked : (if s.serializable then d.markSerializable else d).Sound := by
    split
    · exact (sound.addImport _).addSuperInterface _
    · exact sound
  unfold Declaration.decorated
  dsimp only
  split
  · unfold importDates
    dsimp only
    split
    · exact marked.addImport _
    · exact (marked.addImport _).addImport _
  · exact marked

theorem name_decorated (d : Declaration) (s : DomainSettings) (columns : List Column) :
    (d.decorated s columns).name = d.name ∧ (d.decorated s columns).nested = d.nested := by
  unfold Declaration.decorated importDates
  cases s.serializable <;> cases s.importsDates columns <;> cases s.json.annotationName? <;>
    exact ⟨rfl, rfl⟩

/-! ## Growing trees -/

/-- Every declaration of the first tree is in its place in the second one, with its type; and the
sets of the second tree are in order if those of the first are. -/
structure Grows (d e : Declaration) : Prop where
  stays : ∀ place x, d.at? place = some x → ∃ y, e.at? place = some y ∧ y.name = x.name
  sound : d.Throughout Sound → e.Throughout Sound

theorem Grows.refl (d : Declaration) : Grows d d := ⟨fun _ x found => ⟨x, found, rfl⟩, id⟩

theorem Grows.trans {c : Declaration} (first : Grows c d) (second : Grows d e) : Grows c e := by
  refine ⟨?_, fun sound => second.sound (first.sound sound)⟩
  intro place x found
  obtain ⟨y, there, same⟩ := first.stays place x found
  obtain ⟨z, last, equal⟩ := second.stays place y there
  exact ⟨z, last, equal.trans same⟩

/-- The root is changed, and some nested declarations grow or come to the others. -/
theorem Grows.of_nested (name : e.name = d.name) (root : d.Sound → e.Sound)
    (grown : ∀ (i : Nat) (n : Declaration), d.nested[i]? = some n →
      ∃ k, e.nested[i]? = some k ∧ Grows n k)
    (others : ∀ k ∈ e.nested, k.Throughout Sound ∨ ∃ n ∈ d.nested, Grows n k) : Grows d e := by
  constructor
  · intro place x found
    cases place with
    | nil =>
      obtain rfl := Option.some.inj found
      exact ⟨e, rfl, name⟩
    | cons i place =>
      rw [at?, Option.bind_eq_some_iff] at found
      obtain ⟨n, among, below⟩ := found
      obtain ⟨k, there, grows⟩ := grown i n among
      obtain ⟨y, last, same⟩ := grows.stays place x below
      refine ⟨y, ?_, same⟩
      rw [at?, there]
      exact last
  · intro sound
    rw [throughout_iff] at sound ⊢
    refine ⟨root sound.1, ?_⟩
    intro k member
    rcases others k member with fresh | ⟨n, among, grows⟩
    · exact fresh
    · exact grows.sound (sound.2 n among)

/-- Only the root is changed. -/
theorem Grows.of_root (name : e.name = d.name) (nested : e.nested = d.nested)
    (root : d.Sound → e.Sound) : Grows d e := by
  refine .of_nested name root ?_ ?_
  · intro i n among
    rw [nested]
    exact ⟨n, among, .refl n⟩
  · intro k member
    rw [nested] at member
    exact .inr ⟨k, member, .refl k⟩

theorem Grows.addNested (d : Declaration) {inner : Declaration}
    (sound : inner.Throughout Sound) : Grows d (d.addNested inner) := by
  refine .of_nested rfl (fun root => root.of_sets rfl rfl rfl) ?_ ?_
  · intro i n among
    have below := (List.getElem?_eq_some_iff.1 among).1
    refine ⟨n, ?_, .refl n⟩
    rw [Declaration.addNested, List.getElem?_append_left below]
    exact among
  · intro k member
    rcases List.mem_append.1 member with before | last
    · exact .inr ⟨k, before, .refl k⟩
    · rw [List.mem_singleton.1 last]
      exact .inl sound

/-- One nested declaration grows. -/
theorem Grows.setNested {i : Nat} {n k : Declaration} (found : d.nested[i]? = some n)
    (grown : Grows n k) : Grows d { d with nested := d.nested.set i k } := by
  have below := (List.getElem?_eq_some_iff.1 found).1
  refine .of_nested rfl (fun root => root.of_sets rfl rfl rfl) ?_ ?_
  · intro j x among
    by_cases here : i = j
    · subst here
      obtain rfl : n = x := Option.some.inj (found.symm.trans among)
      exact ⟨k, List.getElem?_set_self below, grown⟩
    · refine ⟨x, ?_, .refl x⟩
      rw [List.getElem?_set_ne here]
      exact among
  · intro x member
    rcases List.mem_or_eq_of_mem_set member with before | rfl
    · exact .inr ⟨x, before, .refl x⟩
    · exact .inr ⟨n, List.mem_of_getElem? found, grown⟩

theorem stripMarkerAll_eq_map (marker : String) (ds : List Declaration) :
    stripMarkerAll marker ds = ds.map fun d => (d.stripMarker marker).dropMarker marker := by
  induction ds with
  | nil => rfl
  | cons d ds ih => rw [stripMarkerAll, List.map_cons, ih]

theorem sizeOf_lt_of_mem_nested {n d : Declaration} (member : n ∈ d.nested) :
    sizeOf n < sizeOf d := by
  cases d
  have inner := List.sizeOf_lt_of_mem member
  dsimp only at inner
  rw [mk.sizeOf_spec]
  omega

/-- Markers go from the whole tree; of the sets only imports are touched, and they lose one name. -/
theorem Grows.stripMarker (marker : String) (d : Declaration) : Grows d (d.stripMarker marker) := by
  have inner : ∀ n ∈ d.nested, Grows n ((n.stripMarker marker).dropMarker marker) := by
    intro n member
    have smaller := sizeOf_lt_of_mem_nested member
    have stripped := Grows.stripMarker marker n
    exact stripped.trans (.of_root rfl rfl fun root => root.of_sets rfl rfl rfl)
  rw [stripMarker_eq]
  refine .of_nested rfl ?_ ?_ ?_
  · intro root
    exact (root.removeImport generatedType.name.text).of_sets rfl rfl rfl
  · intro i n among
    dsimp only
    rw [stripMarkerAll_eq_map, List.getElem?_map, among]
    exact ⟨_, rfl, inner n (List.mem_of_getElem? among)⟩
  · intro k member
    dsimp only at member
    rw [stripMarkerAll_eq_map] at member
    obtain ⟨n, among, rfl⟩ := List.mem_map.1 member
    exact .inr ⟨n, among, inner n among⟩
termination_by sizeOf d

end Declaration

/-! ## Steps and runs -/

open Declaration (Grows Throughout Sound)

section

variable {m : Type → Type} [Monad m] [MonadJournal m] [LawfulMonad m]

/-- A change that lets every declaration grow does so at any place. -/
theorem Declaration.gives_changeAt {change : Declaration → m Declaration}
    (each : ∀ d, ∃ e, Gives (change d) e ∧ Grows d e) (place : List Nat) (d : Declaration) :
    ∃ e, Gives (d.changeAt change place) e ∧ Grows d e := by
  induction place generalizing d with
  | nil => exact each d
  | cons i place ih =>
    rw [changeAt]
    cases found : d.nested[i]? with
    | none => exact ⟨d, .pure d, .refl d⟩
    | some inner =>
      obtain ⟨changed, given, grown⟩ := ih inner
      exact ⟨_, .bind given (.pure _), .setNested found grown⟩

mutual

/-- One edit lets the tree grow. -/
theorem Edit.gives_apply (edit : Edit) (d : Declaration) :
    ∃ e, Gives (edit.apply d : m Declaration) e ∧ Grows d e := by
  match edit with
  | .addSuperInterface t =>
    exact ⟨_, .pure _, .of_root rfl rfl fun sound => sound.addSuperInterface t⟩
  | .addImport t => exact ⟨_, .pure _, .of_root rfl rfl fun sound => sound.addImport t⟩
  | .removeImport name => exact ⟨_, .pure _, .of_root rfl rfl fun sound => sound.removeImport name⟩
  | .annotate line | .addField f | .addMethod method | .makeHandler index rest =>
    exact ⟨_, .pure _, .of_root rfl rfl fun sound => sound.of_sets rfl rfl rfl⟩
  | .addNested kind t script =>
    obtain ⟨inner, given, grown⟩ := Script.gives_run script (.ofType kind t)
    have sound : inner.Throughout Sound := by
      refine grown.sound (Declaration.throughout_iff.2 ⟨Declaration.sound_ofType kind t, ?_⟩)
      intro n member
      cases member
    exact ⟨_, .bind given (.pure _), .addNested d sound⟩
  | .stripMarker marker => exact ⟨_, .pure _, .stripMarker marker d⟩
  | .stripGenerator => exact ⟨_, d.gives_stripGenerator, .stripMarker generatorMarker d⟩
  | .prependBody name param lines =>
    refine ⟨d.prependBody name param lines, ?_, ?_⟩
    · exact .bind (.bind (.note _ _) (.pure _)) (.pure _)
    · exact .of_root rfl rfl fun sound => sound.of_sets rfl rfl rfl
  | .decorate columns s =>
    obtain ⟨name, nested⟩ := d.name_decorated s columns
    exact ⟨_, d.gives_decorate columns s, .of_root name nested fun sound =>
      sound.decorated s columns⟩
  | .decorateField index c s =>
    rw [Edit.apply]
    cases d.fields[index]? with
    | none => exact ⟨d, .pure d, .refl d⟩
    | some f =>
      exact ⟨_, .bind (f.gives_decorate c s) (.pure _),
        .of_root rfl rfl fun sound => sound.of_sets rfl rfl rfl⟩

/-- A script lets the tree grow. -/
theorem Script.gives_run (script : Script) (d : Declaration) :
    ∃ e, Gives (script.run d : m Declaration) e ∧ Grows d e := by
  match script with
  | .done => exact ⟨d, .pure d, .refl d⟩
  | .step place edit rest =>
    obtain ⟨changed, given, grown⟩ := d.gives_changeAt (fun c => Edit.gives_apply edit c) place
    obtain ⟨e, givenRest, grownRest⟩ := Script.gives_run rest changed
    exact ⟨e, .bind given givenRest, grown.trans grownRest⟩

end

/-- A declaration of any type, after any script: it declares the type without its arguments, and in
it and in all declarations nested in it the imports have different names, need to be imported there
and carry neither arguments nor brackets, and the super-interfaces have different names. Whatever is
edited after that, every declaration stays in its place and keeps its type. -/
theorem Script.run_gives_sound (kind : DeclarationKind) (t : TypeExpr) (script : Script) :
    ∃ d, Gives (script.run (.ofType kind t) : m Declaration) d ∧ d.type = t.base ∧
      d.Throughout (fun x => x.type.arguments = [] ∧ x.Sound) ∧
      ∀ more : Script, ∃ e, Gives (more.run d : m Declaration) e ∧
        ∀ place x, d.at? place = some x → ∃ y, e.at? place = some y ∧ y.type = x.type := by
  obtain ⟨d, given, grown⟩ := script.gives_run (m := m) (.ofType kind t)
  have sound : d.Throughout Sound := by
    refine grown.sound (Declaration.throughout_iff.2 ⟨Declaration.sound_ofType kind t, ?_⟩)
    intro n member
    cases member
  have root : d.name = t.name := by
    obtain ⟨y, there, same⟩ := grown.stays [] _ rfl
    obtain rfl := Option.some.inj there
    exact same
  refine ⟨d, given, congrArg TypeExpr.ofName root, ?_, ?_⟩
  · intro place x found
    exact ⟨rfl, sound place x found⟩
  · intro more
    obtain ⟨e, givenMore, grownMore⟩ := more.gives_run (m := m) d
    refine ⟨e, givenMore, ?_⟩
    intro place x found
    obtain ⟨y, there, same⟩ := grownMore.stays place x found
    exact ⟨y, there, congrArg TypeExpr.ofName same⟩

end

/-- A class with a nested one that imports the same array type twice and loses a marker. -/
theorem Script.run_gives_sound_person :
    let inPackage := fun (scope : List Identifier) (simple : Identifier) (rank : Nat) =>
      ({ scope, simple, rank } : QualifiedName)
    let model : List Identifier := [⟨"model", by decide⟩]
    let person := TypeExpr.ofName (inPackage model ⟨"Person", by decide⟩ 0)
    let key := TypeExpr.ofName (inPackage model ⟨"Key", by decide⟩ 0)
    let days := TypeExpr.ofName (inPackage [⟨"cal", by decide⟩] ⟨"Day", by decide⟩ 2)
    let script : Script :=
      .step [] (.addNested .classType key .done) <|
      .step [0] (.addImport (days.apply person)) <|
      .step [0] (.addImport days) <|
      .step [0] (.addImport generatedType) <|
      .step [] .stripGenerator <|
      .step [] (.decorate [] { serializable := true }) .done
    let d : Declaration := script.run (m := Id) (.ofType .classType (person.apply key))
    d.type.text = "model.Person" ∧ d.imports.types.map (·.text) = ["java.io.Serializable"] ∧
      (d.at? [0]).map (fun x => (x.type.text, x.imports.types.map (·.text))) =
        some ("model.Key", ["cal.Day"]) ∧
      d.Throughout (fun x => x.type.arguments = [] ∧ x.Sound) := by
  intro inPackage model person key days script d
  obtain ⟨made, ⟨journal, given⟩, declared, sound, -⟩ :=
    Script.run_gives_sound (m := Id) .classType (person.apply key) script
  obtain rfl : d = made := given
  refine ⟨?_, by decide, by decide, sound⟩
  rw [declared]
  decide

end RecordSynth
