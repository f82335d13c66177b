import Mathlib.Data.List.Basic
import RecordSynth.Dump
import RecordSynth.Proofs.TypeExpr.RoundTrip
/-!
# What a dump tells

A dump has a member for every part of every declaration. Types appear in it as their texts and sets
of types as lists without keys, but a type can be read off its text and a key off the type it
belongs to. So the output of a run can be told from its dump.
-/

namespace RecordSynth

/-! ## Values -/

/-- Objects with the same keys are the same member by member. -/
theorem Json.object_cons_inj (key : String) (v w : Json) (ms ns : List (String × Json)) :
    object ((key, v) :: ms) = object ((key, w) :: ns) ↔ v = w ∧ object ms = object ns := by
  simp

theorem Json.texts_injective : Function.Injective texts := by
  intro ts us equal
  rw [texts, texts, array.injEq] at equal
  exact List.map_injective_iff.2 (fun _ _ same => text.inj same) equal

theorem Visibility.label_injective : Function.Injective label := by
  intro v w equal
  cases v <;> cases w <;> first | rfl | exact absurd equal (by decide)

theorem DeclarationKind.label_injective : Function.Injective label := by
  intro k l equal
  cases k <;> cases l <;> first | rfl | exact absurd equal (by decide)

/-! ## Types -/

theorem TypeExpr.toJson_injective : Function.Injective toJson :=
  fun _ _ equal => text_injective (Json.text.inj equal)

/-- A missing type is told from every type that there is. -/
theorem TypeExpr.toJson?_injective : Function.Injective toJson? := by
  intro a b equal
  cases a with
  | none =>
    cases b with
    | none => rfl
    | some u => exact Json.noConfusion equal
  | some t =>
    cases b with
    | none => exact Json.noConfusion equal
    | some u => rw [toJson_injective equal]

/-- The keys of a set are the names of its types, so its types in their order are all of it. -/
theorem TypeSet.toJson_injective : Function.Injective toJson := by
  rintro ⟨ts⟩ ⟨us⟩ equal
  have same : ts = us := List.map_injective_iff.2 TypeExpr.toJson_injective (Json.array.inj equal)
  rw [same]

/-! ## Members -/

theorem Field.toJson_injective : Function.Injective toJson := by
  rintro ⟨name, _, _, _, _⟩ ⟨name', _, _, _, _⟩ equal
  simp only [toJson, Json.object_cons_inj, Json.text.injEq, and_true] at equal
  obtain ⟨rfl, sameType, sameVisibility, sameAnnotations, sameDocLines⟩ := equal
  rw [TypeExpr.toJson_injective sameType, Visibility.label_injective sameVisibility,
    Json.texts_injective sameAnnotations, Json.texts_injective sameDocLines]

theorem Parameter.toJson_injective : Function.Injective toJson := by
  rintro ⟨name, _⟩ ⟨name', _⟩ equal
  simp only [toJson, Json.object_cons_inj, Json.text.injEq, and_true] at equal
  obtain ⟨rfl, sameType⟩ := equal
  rw [TypeExpr.toJson_injective sameType]

theorem Method.toJson_injective : Function.Injective toJson := by
  rintro ⟨name, _, _, _, _, _⟩ ⟨name', _, _, _, _, _⟩ equal
  simp only [toJson, Json.object_cons_inj, Json.text.injEq, Json.array.injEq, and_true] at equal
  obtain ⟨rfl, sameParameters, sameReturn, sameBody, sameAnnotations, sameVisibility⟩ := equal
  rw [List.map_injective_iff.2 Parameter.toJson_injective sameParameters,
    TypeExpr.toJson?_injective sameReturn, Json.texts_injective sameBody,
    Json.texts_injective sameAnnotations, Visibility.label_injective sameVisibility]

/-! ## Declarations -/

mutual

/-- Nested declarations can be told like the outer one, at any depth. -/
theorem Declaration.toJson_injective : ∀ {d e : Declaration}, d.toJson = e.toJson → d = e
  | ⟨name, _, _, _, _, _, _, _, _, _⟩, ⟨name', _, _, _, _, _, _, _, _, _⟩, equal => by
    simp only [toJson, type, Json.object_cons_inj, Json.text.injEq, Json.array.injEq, and_true]
      at equal
    obtain ⟨sameType, sameKind, sameVisibility, sameSuper, sameInterfaces, sameImports, sameFields,
      sameMethods, sameAnnotations, sameNested⟩ := equal
    have sameName : name = name' := congrArg TypeExpr.name (TypeExpr.toJson_injective sameType)
    rw [sameName, DeclarationKind.label_injective sameKind,
      Visibility.label_injective sameVisibility, TypeExpr.toJson?_injective sameSuper,
      TypeSet.toJson_injective sameInterfaces, TypeSet.toJson_injective sameImports,
      List.map_injective_iff.2 Field.toJson_injective sameFields,
      List.map_injective_iff.2 Method.toJson_injective sameMethods,
      Json.texts_injective sameAnnotations, toJsonAll_injective sameNested]

theorem Declaration.toJsonAll_injective :
    ∀ {ds es : List Declaration}, toJsonAll ds = toJsonAll es → ds = es
  | [], [], _ => rfl
  | [], _ :: _, equal => nomatch equal
  | _ :: _, [], equal => nomatch equal
  | d :: ds, e :: es, equal => by
    obtain ⟨first, rest⟩ := List.cons.inj equal
    rw [toJson_injective first, toJsonAll_injective rest]

end

/-! ## Outputs -/

theorem Artifact.toJson_injective : Function.Injective toJson := by
  rintro ⟨_, project⟩ ⟨_, project'⟩ equal
  simp only [toJson, Json.object_cons_inj, Json.text.injEq, and_true] at equal
  obtain ⟨sameDeclaration, rfl⟩ := equal
  rw [Declaration.toJson_injective sameDeclaration]

/-- A dump loses nothing: outputs with the same dump are the same output, in every part and at any
depth of nesting. That holds of all outputs, not just of those that some run makes: types are well
formed as they are built, and no two of them have the same text. -/
theorem PassOutput.toJson_eq_iff (o o' : PassOutput) : o.toJson = o'.toJson ↔ o = o' := by
  constructor
  · intro equal
    obtain ⟨artifacts, warnings⟩ := o
    obtain ⟨artifacts', warnings'⟩ := o'
    simp only [toJson, Json.object_cons_inj, Json.array.injEq, and_true] at equal
    obtain ⟨sameArtifacts, sameWarnings⟩ := equal
    rw [List.map_injective_iff.2 Artifact.toJson_injective sameArtifacts,
      Json.texts_injective sameWarnings]
  · rintro rfl
    rfl

end RecordSynth
