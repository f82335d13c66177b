import RecordSynth.Proofs.Properties
import RecordSynth.Settings.Run
/-!
# Settings documents

What reading a settings document gives, in either format: two sections, in each of which a key occurs
once and every value stands for something.
-/

namespace RecordSynth

namespace Yaml

/-- A scalar stands for a value that can be used, if it stands for one. -/
theorem scalarValue?_ne_illFormed (tag : Option Octets) (s : String) (style : ScalarStyle) :
    scalarValue? tag s style ≠ some .illFormed := by
  have word : ∀ n : Int, word? n ≠ some .illFormed := by
    intro n
    unfold word?
    split <;> simp
  have float : float? s ≠ some .illFormed := by
    unfold float?
    split
    · simp
    · dsimp only
      split <;> simp
  have plain : plainValue? s ≠ some .illFormed := by
    unfold plainValue?
    split
    · simp
    · cases bool? s with
      | some b => simp
      | none =>
        have number : (float? s).getD (.text s) ≠ .illFormed := by
          cases given : float? s with
          | none => simp
          | some v => simpa [given] using float
        cases integer? s.toList with
        | none =>
          dsimp only
          split <;> simp [number]
        | some n =>
          dsimp only
          split
          · simp
          · cases given : word? n with
            | none => simp [number]
            | some v => simpa [given] using word n
  unfold scalarValue? taggedValue?
  cases tag with
  | none =>
    dsimp only
    split
    · exact plain
    · simp
  | some tag =>
    dsimp only
    split_ifs
    · simp
    · simp
    · cases integer? s.toList with
      | none => simp
      | some n => exact word n
    · exact float
    · simp
    · simp
    · exact plain
    · simp

namespace Decoding

/-! ## What decoders answer -/

section

variable {α β : Type} {P : α → Prop} {Q : β → Prop}

/-- Whatever the decoder answers has the property. -/
def Yields (P : α → Prop) (x : Decoding α) : Prop :=
  ∀ document count a count', x document count = some (a, count') → P a

theorem Yields.pure {a : α} (holds : P a) : Yields P (pure a : Decoding α) := by
  intro document count b count' answered
  cases answered
  exact holds

theorem yields_refuse : Yields P refuse := nofun

theorem Yields.get {o : Option α} (holds : ∀ a, o = some a → P a) : Yields P (get o) := by
  cases o with
  | none => exact yields_refuse
  | some a => exact .pure (holds a rfl)

theorem yields_any (x : Decoding α) : Yields (fun _ => True) x := fun _ _ _ _ _ => trivial

theorem Yields.bind {x : Decoding α} {f : α → Decoding β} (first : Yields P x)
    (rest : ∀ a, P a → Yields Q (f a)) : Yields Q (x >>= f) := by
  intro document count b count' answered
  change (x document count).bind (fun (a, n) => f a document n) = some (b, count') at answered
  obtain ⟨⟨a, n⟩, given, answered'⟩ := Option.bind_eq_some_iff.1 answered
  exact rest a (first document count a n given) document n b count' answered'

theorem Yields.map {x : Decoding α} (f : α → β) (given : Yields (fun a => Q (f a)) x) :
    Yields Q (f <$> x) := by
  rw [map_eq_pure_bind]
  exact given.bind fun a holds => .pure holds

theorem Yields.mapM {f : β → Decoding α} (each : ∀ b, Yields P (f b)) (bs : List β) :
    Yields (fun as => ∀ a ∈ as, P a) (bs.mapM f) := by
  induction bs with
  | nil =>
    rw [List.mapM_nil]
    exact .pure (List.forall_mem_nil _)
  | cons b bs ih =>
    rw [List.mapM_cons]
    refine (each b).bind fun a first => ih.bind fun as others => .pure ?_
    exact List.forall_mem_cons.2 ⟨first, others⟩

theorem Yields.optional {act : Node → Decoding α} (each : ∀ n, Yields P (act n)) (n : Node) :
    Yields (fun o => ∀ a, o = some a → P a) (optional act n) := by
  have answer : ∀ (followed : Node) (x : Decoding Bool), Yields (fun o => ∀ a, o = some a → P a)
      (do
        let isNone ← x
        if isNone then Pure.pure none else some <$> act followed) := by
    intro followed x
    refine (yields_any x).bind fun isNone _ => ?_
    split
    · exact .pure nofun
    · refine .map some fun document count a count' answered b same => ?_
      rw [← Option.some.inj same]
      exact each followed document count a count' answered
  refine (yields_any (follow n)).bind fun followed _ => ?_
  dsimp only
  split
  · split_ifs
    · exact answer _ (Pure.pure true)
    · exact answer _ refuse
    · exact answer _ (Pure.pure _)
  · exact answer _ (Pure.pure false)

end

/-- No value of a document is ill-formed. -/
theorem yields_value (depth : Nat) (n : Node) : Yields (· ≠ Json.illFormed) (value depth n) := by
  rw [value]
  refine (yields_any (follow n)).bind fun followed _ => ?_
  cases followed with
  | scalar marks s style =>
    refine .get fun v given => ?_
    rintro rfl
    exact scalarValue?_ne_illFormed marks.tag s style given
  | reference anchor => exact yields_refuse
  | sequence marks ns =>
    cases depth with
    | zero => exact yields_refuse
    | succ depth =>
      dsimp only
      split
      · exact .map _ fun _ _ _ _ _ => by simp
      · exact yields_refuse
  | mapping marks es =>
    cases depth with
    | zero => exact yields_refuse
    | succ depth =>
      dsimp only
      split
      · exact .map _ fun _ _ _ _ _ => by simp
      · exact yields_refuse

end Decoding

end Yaml

/-! ## Sections -/

/-- A section as documents give it. -/
structure Section.Decoded (s : Section) : Prop where
  distinct : s.Distinct
  formed : ∀ e ∈ s.entries, e.2 ≠ .illFormed

namespace SettingsDocument

/-- Both sections are as documents give them. -/
structure Decoded (d : SettingsDocument) : Prop where
  service : d.service.Decoded
  domain : d.domain.Decoded

theorem decoded_ofList {entries : List (String × Json)} (formed : ∀ e ∈ entries, e.2 ≠ .illFormed) :
    Section.Decoded (.ofList entries) where
  distinct := Keyed.distinct_ofList entries
  formed := by
    rintro ⟨key, v⟩ member
    have found := (Keyed.distinct_ofList entries).get?_eq_some_iff.2 member
    rw [Keyed.ofList, Keyed.get?_setAll] at found
    rcases found with ⟨before, after, rfl, -⟩ | ⟨-, absent⟩
    · exact formed (key, v) (by simp)
    · cases absent

theorem decoded_empty : Decoded {} := by
  have bare : Section.Decoded {} := decoded_ofList (List.forall_mem_nil _)
  exact ⟨bare, bare⟩

theorem decoded_sectionOfJson? {j : Json} {s : Section} (read : sectionOfJson? j = some s) :
    s.Decoded := by
  unfold sectionOfJson? at read
  split at read
  · split at read
    · rename_i members usable
      obtain rfl := Option.some.inj read
      refine decoded_ofList fun e member formed => ?_
      have used := List.all_eq_true.1 usable e member
      rw [formed] at used
      cases used
    · cases read
  · cases read

theorem decoded_ofJson? {j : Json} {d : SettingsDocument} (read : ofJson? j = some d) :
    d.Decoded := by
  simp only [ofJson?, Option.bind_eq_bind, Option.bind_eq_some_iff] at read
  obtain ⟨fields, -, read⟩ := read
  split at read
  · simp only [Option.bind_eq_some_iff, Option.some.injEq] at read
    obtain ⟨project, -, service, serviceRead, domain, domainRead, rfl⟩ := read
    exact ⟨decoded_sectionOfJson? serviceRead, decoded_sectionOfJson? domainRead⟩
  · cases read

open Yaml (Node)
open Yaml.Decoding

theorem yields_sectionOfYaml (n : Node) : Yields Section.Decoded (sectionOfYaml n) := by
  refine (yields_any _).bind fun entries _ => ?_
  have each : ∀ e : String × Node, Yields (fun (made : String × Json) => made.2 ≠ .illFormed)
      (do pure (e.1, ← value yamlDepth e.2)) :=
    fun e => (yields_value yamlDepth e.2).bind fun v formed => .pure formed
  exact (Yields.mapM each entries).bind fun members formed => .pure (decoded_ofList formed)

theorem yields_ofYaml (n : Node) : Yields Decoded (ofYaml n) := by
  refine (yields_any _).bind fun fields _ => ?_
  split
  · refine (yields_any _).bind fun project _ => ?_
    refine (yields_sectionOfYaml _).bind fun service serviceDecoded => ?_
    exact (yields_sectionOfYaml _).bind fun domain domainDecoded =>
      .pure ⟨serviceDecoded, domainDecoded⟩
  · exact yields_refuse

/-- Whatever a document spells, in its sections each key occurs once and no value is ill-formed. -/
theorem decoded_of_parse? {format : DocumentFormat} {source : String} {d : SettingsDocument}
    (read : parse? format source = some d) : d.Decoded := by
  cases format with
  | json =>
    obtain ⟨j, -, given⟩ := Option.bind_eq_some_iff.1 read
    exact decoded_ofJson? given
  | yaml =>
    obtain ⟨found, ran, rfl⟩ := Option.map_eq_some_iff.1 read
    obtain ⟨document, -, ran⟩ := Option.bind_eq_some_iff.1 ran
    split at ran
    · obtain rfl := Option.some.inj ran
      exact decoded_empty
    · obtain ⟨⟨answer, count⟩, answered, rfl⟩ := Option.map_eq_some_iff.1 ran
      cases answer with
      | none => exact decoded_empty
      | some d => exact Yields.optional yields_ofYaml _ _ _ _ _ answered d rfl

end SettingsDocument

end RecordSynth
