import Mathlib
import RecordSynth.Declaration.Markers
/-!
# Removing markers again and again

What is left of a declaration when its markers have been removed any number of times. Markers go one
for each pass from every member and every nested declaration, at any depth, while imports and
comments are settled by the first pass. So a second pass changes nothing exactly if nothing below
the root has the marker twice.
-/

namespace RecordSynth

/-! ## Lines without their first markers -/

/-- `kept` is what is left of `lines` when the first `n` lines equal to the marker are gone, or all
of them if there are fewer. -/
def Loses (marker : String) (n : Nat) (lines kept : List String) : Prop :=
  ∃ front rest, lines = front ++ rest ∧
    front.count marker = min n (lines.count marker) ∧ kept = front.filter (· ≠ marker) ++ rest

theorem filter_ne_of_count {marker : String} {lines : List String} (none : lines.count marker = 0) :
    lines.filter (· ≠ marker) = lines := by
  rw [List.filter_eq_self]
  rintro line member
  rw [decide_eq_true_eq]
  rintro rfl
  exact List.count_eq_zero.1 none member

namespace Loses

variable {marker : String} {n : Nat} {lines kept : List String}

theorem zero (marker : String) (lines : List String) : Loses marker 0 lines lines :=
  ⟨[], lines, rfl, by simp, rfl⟩

/-- One more line goes, if there is one. -/
theorem erase (lost : Loses marker n lines kept) :
    Loses marker (n + 1) lines (kept.erase marker) := by
  obtain ⟨front, rest, rfl, gone, rfl⟩ := lost
  have solid : marker ∉ front.filter (· ≠ marker) := by simp
  rw [List.erase_append_right _ solid]
  rw [List.count_append] at gone
  by_cases more : marker ∈ rest
  · obtain ⟨before, behind, rfl, first⟩ := List.eq_append_cons_of_mem more
    have none : before.count marker = 0 := List.count_eq_zero.2 first
    refine ⟨front ++ (before ++ [marker]), behind, by simp, ?_, ?_⟩
    · simp only [List.count_append, List.count_cons_self, List.count_nil, none] at gone ⊢
      omega
    · rw [List.erase_append_right _ first, List.erase_cons_head, List.filter_append,
        List.filter_append, filter_ne_of_count none]
      simp
  · have none : rest.count marker = 0 := List.count_eq_zero.2 more
    refine ⟨front, rest, rfl, ?_, by rw [List.erase_of_not_mem more]⟩
    rw [List.count_append]
    omega

/-- What is left does not depend on where the text is divided. -/
theorem unique {kept' : List String} (lost : Loses marker n lines kept)
    (lost' : Loses marker n lines kept') : kept = kept' := by
  obtain ⟨front, rest, rfl, gone, rfl⟩ := lost
  obtain ⟨front', rest', equal, gone', rfl⟩ := lost'
  have same : front.count marker = front'.count marker := gone.trans gone'.symm
  -- One front is longer than the other, by lines that are no markers.
  have longer : ∀ front middle : List String, front.count marker = (front ++ middle).count marker →
      (front ++ middle).filter (· ≠ marker) = front.filter (· ≠ marker) ++ middle := by
    intro front middle same
    have none : middle.count marker = 0 := by
      rw [List.count_append] at same
      omega
    rw [List.filter_append, filter_ne_of_count none]
  rcases List.append_eq_append_iff.1 equal with ⟨middle, rfl, rfl⟩ | ⟨middle, rfl, rfl⟩
  · rw [longer _ _ same, List.append_assoc]
  · rw [longer _ _ same.symm, List.append_assoc]

end Loses

/-! ## Members without their first markers -/

/-- The field has lost markers and is the same otherwise. -/
def FieldLoses (marker : String) (n : Nat) (f g : Field) : Prop :=
  ∃ kept, Loses marker n f.annotations kept ∧ g = { f with annotations := kept }

/-- The method has lost markers and is the same otherwise. -/
def MethodLoses (marker : String) (n : Nat) (m k : Method) : Prop :=
  ∃ kept, Loses marker n m.annotations kept ∧ k = { m with annotations := kept }

/-- The comment ends in an empty line, which is new unless the comment ended in one before. -/
def DocClosed (lines closed : List String) : Prop :=
  (lines.getLast? = some "" ∧ closed = lines) ∨
    (lines.getLast? ≠ some "" ∧ closed = lines ++ [""])

/-- The fields have lost markers and the comment of the first one is closed. -/
inductive FieldsStripped (marker : String) (n : Nat) : List Field → List Field → Prop
  | none : FieldsStripped marker n [] []
  | first {f g : Field} {fs gs : List Field} {closed : List String}
      (doc : DocClosed f.docLines closed) (lost : FieldLoses marker n { f with docLines := closed } g)
      (others : List.Forall₂ (FieldLoses marker n) fs gs) :
      FieldsStripped marker n (f :: fs) (g :: gs)

section

variable {marker : String} {n : Nat}

theorem FieldLoses.dropMarker {f g : Field} (lost : FieldLoses marker n f g) :
    FieldLoses marker (n + 1) f (g.dropMarker marker) := by
  obtain ⟨kept, lines, rfl⟩ := lost
  exact ⟨_, lines.erase, rfl⟩

theorem MethodLoses.dropMarker {m k : Method} (lost : MethodLoses marker n m k) :
    MethodLoses marker (n + 1) m (k.dropMarker marker) := by
  obtain ⟨kept, lines, rfl⟩ := lost
  exact ⟨_, lines.erase, rfl⟩

theorem Field.docClosed_closeDoc (f : Field) : DocClosed f.docLines f.closeDoc.docLines := by
  unfold Field.closeDoc
  split
  · rename_i closed
    exact .inl ⟨closed, rfl⟩
  · rename_i opened
    exact .inr ⟨opened, rfl⟩

theorem Field.closeDoc_eq (f : Field) : f.closeDoc = { f with docLines := f.closeDoc.docLines } := by
  unfold Field.closeDoc
  split <;> rfl

theorem Field.closeDoc_of_docClosed {f : Field} (lines : List String)
    (closed : DocClosed lines f.docLines) : f.closeDoc = f := by
  have last : f.docLines.getLast? = some "" := by
    rcases closed with ⟨before, kept⟩ | ⟨-, added⟩
    · rw [kept, before]
    · rw [added, List.getLast?_concat]
  rw [Field.closeDoc, if_pos last]

theorem fieldsStripped_once (marker : String) (fs : List Field) :
    FieldsStripped marker 1 fs ((closeFirstDoc fs).map (·.dropMarker marker)) := by
  have lost : ∀ f : Field, FieldLoses marker 1 f (f.dropMarker marker) := fun f =>
    FieldLoses.dropMarker ⟨f.annotations, .zero marker _, rfl⟩
  cases fs with
  | nil => exact .none
  | cons f fs =>
    refine .first f.docClosed_closeDoc ?_ ?_
    · rw [← f.closeDoc_eq]
      exact lost f.closeDoc
    · rw [List.forall₂_map_right_iff, List.forall₂_same]
      exact fun f _ => lost f

theorem FieldsStripped.again {fs gs : List Field} (stripped : FieldsStripped marker n fs gs) :
    FieldsStripped marker (n + 1) fs ((closeFirstDoc gs).map (·.dropMarker marker)) := by
  cases stripped with
  | none => exact .none
  | @first f g fs gs closed doc lost others =>
    have settled : g.closeDoc = g := by
      obtain ⟨kept, -, rfl⟩ := lost
      exact Field.closeDoc_of_docClosed f.docLines doc
    rw [closeFirstDoc, settled, List.map_cons]
    refine .first doc lost.dropMarker ?_
    rw [List.forall₂_map_right_iff]
    exact others.imp fun _ _ => FieldLoses.dropMarker

theorem FieldLoses.unique : Relator.RightUnique (FieldLoses marker n) := by
  rintro f g g' ⟨kept, lines, rfl⟩ ⟨kept', lines', rfl⟩
  rw [lines.unique lines']

theorem MethodLoses.unique : Relator.RightUnique (MethodLoses marker n) := by
  rintro m k k' ⟨kept, lines, rfl⟩ ⟨kept', lines', rfl⟩
  rw [lines.unique lines']

theorem DocClosed.unique {lines closed closed' : List String} (doc : DocClosed lines closed)
    (doc' : DocClosed lines closed') : closed = closed' := by
  rcases doc with ⟨last, rfl⟩ | ⟨last, rfl⟩
  · rcases doc' with ⟨-, rfl⟩ | ⟨other, -⟩
    · rfl
    · exact absurd last other
  · rcases doc' with ⟨other, -⟩ | ⟨-, rfl⟩
    · exact absurd other last
    · rfl

theorem FieldsStripped.unique {fs gs gs' : List Field} (stripped : FieldsStripped marker n fs gs)
    (stripped' : FieldsStripped marker n fs gs') : gs = gs' := by
  cases stripped with
  | none =>
    cases stripped'
    rfl
  | first doc lost others =>
    cases stripped' with
    | first doc' lost' others' =>
      obtain rfl := doc.unique doc'
      rw [FieldLoses.unique lost lost',
        List.right_unique_forall₂' FieldLoses.unique others others']

end

/-! ## Trees without their first markers -/

namespace Declaration

mutual

/-- Everything inside the declaration has lost markers, and the first comment is closed. Of the rest,
only the import behind generator markers is gone; the annotations of the declaration itself stay. -/
inductive Stripped (marker : String) (n : Nat) : Declaration → Declaration → Prop
  | node {d : Declaration} {imports : TypeSet} {fields : List Field} {methods : List Method}
      {nested : List Declaration}
      (others : imports.types =
        d.imports.types.filter fun t => t.name.text != "javax.annotation.Generated")
      (fieldsLose : FieldsStripped marker n d.fields fields)
      (methodsLose : List.Forall₂ (MethodLoses marker n) d.methods methods)
      (nestedLose : NestedStripped marker n d.nested nested) :
      Stripped marker n d { d with imports, fields, methods, nested }

/-- Nested declarations have lost markers, on them and inside them. -/
inductive NestedStripped (marker : String) (n : Nat) : List Declaration → List Declaration → Prop
  | nil : NestedStripped marker n [] []
  | cons {d e : Declaration} {ds es : List Declaration} {kept : List String}
      (own : Loses marker n d.annotations kept) (inside : Stripped marker n d e)
      (behind : NestedStripped marker n ds es) :
      NestedStripped marker n (d :: ds) ({ e with annotations := kept } :: es)

end

theorem stripMarker_eq (marker : String) (d : Declaration) :
    d.stripMarker marker =
      { d with
        imports := d.imports.erase generatedType.name.text
        fields := (closeFirstDoc d.fields).map (·.dropMarker marker)
        methods := d.methods.map (·.dropMarker marker)
        nested := stripMarkerAll marker d.nested } := by
  cases d
  rw [stripMarker]

theorem annotations_stripMarker (marker : String) (d : Declaration) :
    (d.stripMarker marker).annotations = d.annotations := by
  rw [stripMarker_eq]

theorem generatedType_text : generatedType.name.text = "javax.annotation.Generated" := by decide

/-! ### One pass -/

mutual

theorem stripped_once (marker : String) (d : Declaration) :
    Stripped marker 1 d (d.stripMarker marker) := by
  match d with
  | ⟨_, _, _, _, _, imports, fields, methods, _, nested⟩ =>
    rw [stripMarker_eq]
    refine .node ?_ (fieldsStripped_once marker fields) ?_ (nestedStripped_once marker nested)
    · rw [TypeSet.erase, generatedType_text]
    · rw [List.forall₂_map_right_iff, List.forall₂_same]
      exact fun m _ => MethodLoses.dropMarker ⟨m.annotations, .zero marker _, rfl⟩

theorem nestedStripped_once (marker : String) (ds : List Declaration) :
    NestedStripped marker 1 ds (stripMarkerAll marker ds) := by
  match ds with
  | [] => exact .nil
  | d :: ds =>
    rw [stripMarkerAll, dropMarker, annotations_stripMarker]
    exact .cons (Loses.zero marker d.annotations).erase (stripped_once marker d)
      (nestedStripped_once marker ds)

end

/-! ### One more pass -/

mutual

theorem Stripped.again {marker : String} {n : Nat} {d e : Declaration}
    (stripped : Stripped marker n d e) : Stripped marker (n + 1) d (e.stripMarker marker) := by
  match stripped with
  | .node others fieldsLose methodsLose nestedLose =>
    rw [stripMarker_eq]
    refine .node ?_ fieldsLose.again ?_ nestedLose.again
    · rw [TypeSet.erase, generatedType_text, others, List.filter_filter]
      simp
    · rw [List.forall₂_map_right_iff]
      exact methodsLose.imp fun _ _ => MethodLoses.dropMarker

theorem NestedStripped.again {marker : String} {n : Nat} {ds es : List Declaration}
    (stripped : NestedStripped marker n ds es) :
    NestedStripped marker (n + 1) ds (stripMarkerAll marker es) := by
  match stripped with
  | .nil => exact .nil
  | @NestedStripped.cons _ _ d e ds es kept own inside behind =>
    have moved : ({ e with annotations := kept }.stripMarker marker).dropMarker marker =
        { e.stripMarker marker with annotations := kept.erase marker } := by
      rw [stripMarker_eq, stripMarker_eq, dropMarker]
    rw [stripMarkerAll, moved]
    exact .cons own.erase inside.again behind.again

end

/-! ### Any number of passes -/

theorem stripped_iterate (marker : String) (n : Nat) (d : Declaration) :
    Stripped marker (n + 1) d ((stripMarker marker)^[n + 1] d) := by
  induction n with
  | zero => exact stripped_once marker d
  | succ n ih =>
    rw [Function.iterate_succ_apply']
    exact ih.again

/-! ### One tree -/

mutual

/-- There is only one tree that is left. -/
theorem Stripped.unique {marker : String} {n : Nat} {d e e' : Declaration}
    (stripped : Stripped marker n d e) (stripped' : Stripped marker n d e') : e = e' := by
  match stripped, stripped' with
  | @Stripped.node _ _ _ ⟨types⟩ _ _ _ others fieldsLose methodsLose nestedLose,
    @Stripped.node _ _ _ ⟨types'⟩ _ _ _ others' fieldsLose' methodsLose' nestedLose' =>
    obtain rfl : types = types' := others.trans others'.symm
    rw [fieldsLose.unique fieldsLose', nestedLose.unique nestedLose',
      List.right_unique_forall₂' MethodLoses.unique methodsLose methodsLose']

theorem NestedStripped.unique {marker : String} {n : Nat} {ds es es' : List Declaration}
    (stripped : NestedStripped marker n ds es) (stripped' : NestedStripped marker n ds es') :
    es = es' := by
  match stripped, stripped' with
  | .nil, .nil => rfl
  | .cons own inside behind, .cons own' inside' behind' =>
    rw [own.unique own', inside.unique inside', behind.unique behind']

end

/-! ## When one pass is enough -/

mutual

/-- The annotations of each field, method and nested declaration below the root. -/
def annotationsBelow : Declaration → List (List String)
  | ⟨_, _, _, _, _, _, fields, methods, _, nested⟩ =>
    fields.map (·.annotations) ++ methods.map (·.annotations) ++ annotationsBelowAll nested

/-- The annotations of declarations and of all that is below them. -/
def annotationsBelowAll : List Declaration → List (List String)
  | [] => []
  | d :: ds => d.annotations :: d.annotationsBelow ++ annotationsBelowAll ds

end

theorem erase_erase_iff {marker : String} {lines : List String} :
    (lines.erase marker).erase marker = lines.erase marker ↔ lines.count marker ≤ 1 := by
  rw [List.erase_eq_self_iff, ← List.count_eq_zero, List.count_erase_self]
  omega

theorem closeFirstDoc_stripped (marker : String) (fs : List Field) :
    closeFirstDoc ((closeFirstDoc fs).map (·.dropMarker marker)) =
      (closeFirstDoc fs).map (·.dropMarker marker) := by
  cases fs with
  | nil => rfl
  | cons f fs =>
    have settled : (f.closeDoc.dropMarker marker).closeDoc = f.closeDoc.dropMarker marker :=
      Field.closeDoc_of_docClosed f.docLines f.docClosed_closeDoc
    rw [closeFirstDoc, List.map_cons, closeFirstDoc, settled]

theorem fieldsSettled_iff {marker : String} {fs : List Field} :
    (closeFirstDoc ((closeFirstDoc fs).map (·.dropMarker marker))).map (·.dropMarker marker) =
        (closeFirstDoc fs).map (·.dropMarker marker) ↔
      ∀ f ∈ fs, f.annotations.count marker ≤ 1 := by
  have one : ∀ f : Field, (f.dropMarker marker).dropMarker marker = f.dropMarker marker ↔
      f.annotations.count marker ≤ 1 := by
    intro f
    rw [← erase_erase_iff]
    simp [Field.dropMarker]
  have settled : ∀ fields : List Field,
      (fields.map (·.dropMarker marker)).map (·.dropMarker marker) =
          fields.map (·.dropMarker marker) ↔
        ∀ f ∈ fields, f.annotations.count marker ≤ 1 := by
    intro fields
    rw [List.map_map, List.map_inj_left]
    exact forall₂_congr fun f _ => one f
  rw [closeFirstDoc_stripped, settled]
  cases fs with
  | nil => rfl
  | cons f fs =>
    have kept : f.closeDoc.annotations = f.annotations := by rw [Field.closeDoc_eq]
    rw [closeFirstDoc, List.forall_mem_cons, List.forall_mem_cons, kept]

theorem methodsSettled_iff {marker : String} {ms : List Method} :
    (ms.map (·.dropMarker marker)).map (·.dropMarker marker) = ms.map (·.dropMarker marker) ↔
      ∀ m ∈ ms, m.annotations.count marker ≤ 1 := by
  rw [List.map_map, List.map_inj_left]
  refine forall₂_congr fun m _ => ?_
  rw [← erase_erase_iff]
  simp [Method.dropMarker]

theorem dropMarker_settled_iff {marker : String} {d e : Declaration}
    (own : d.annotations = e.annotations) :
    (d.dropMarker marker).dropMarker marker = e.dropMarker marker ↔
      e.annotations.count marker ≤ 1 ∧ d = e := by
  rw [← erase_erase_iff]
  cases d
  cases e
  obtain rfl := own
  simp only [dropMarker, mk.injEq]
  tauto

mutual

theorem stripMarker_settled_iff {marker : String} (d : Declaration) :
    (d.stripMarker marker).stripMarker marker = d.stripMarker marker ↔
      ∀ lines ∈ d.annotationsBelow, lines.count marker ≤ 1 := by
  match d with
  | ⟨_, _, _, _, _, imports, fields, methods, _, nested⟩ =>
    have gone : (imports.erase generatedType.name.text).erase generatedType.name.text =
        imports.erase generatedType.name.text := by simp [TypeSet.erase]
    rw [stripMarker_eq, stripMarker_eq, mk.injEq]
    simp only [gone, fieldsSettled_iff, methodsSettled_iff, stripMarkerAll_settled_iff nested,
      annotationsBelow, List.forall_mem_append, List.forall_mem_map, true_and, and_assoc]

theorem stripMarkerAll_settled_iff {marker : String} (ds : List Declaration) :
    stripMarkerAll marker (stripMarkerAll marker ds) = stripMarkerAll marker ds ↔
      ∀ lines ∈ annotationsBelowAll ds, lines.count marker ≤ 1 := by
  match ds with
  | [] => simp [stripMarkerAll, annotationsBelowAll]
  | d :: ds =>
    have own := annotations_stripMarker marker (d.stripMarker marker)
    have moved : ((d.stripMarker marker).dropMarker marker).stripMarker marker =
        ((d.stripMarker marker).stripMarker marker).dropMarker marker := by
      rw [stripMarker_eq, stripMarker_eq marker (d.stripMarker marker), dropMarker, dropMarker]
    rw [stripMarkerAll, stripMarkerAll, List.cons.injEq, moved, dropMarker_settled_iff own,
      annotations_stripMarker, stripMarker_settled_iff d, stripMarkerAll_settled_iff ds,
      annotationsBelowAll, List.cons_append, List.forall_mem_cons, List.forall_mem_append, and_assoc]

end

/-- What is left after one pass or more. It is the one tree in which all members and all nested
declarations, at any depth, have lost one marker for each pass as long as they had one, in which the
first comments are closed and the generator's import is gone. A second pass changes nothing exactly
if no member and no nested declaration has the marker twice. -/
theorem stripMarker_repeated (marker : String) (n : Nat) (d : Declaration) :
    (∀ e, e = (stripMarker marker)^[n + 1] d ↔ Stripped marker (n + 1) d e) ∧
      ((d.stripMarker marker).stripMarker marker = d.stripMarker marker ↔
        ∀ lines ∈ d.annotationsBelow, lines.count marker ≤ 1) := by
  refine ⟨?_, stripMarker_settled_iff d⟩
  intro e
  have left := stripped_iterate marker n d
  constructor
  · rintro rfl
    exact left
  · intro stripped
    exact stripped.unique left

end Declaration

end RecordSynth
