import Mathlib
import RecordSynth.Proofs.PackagePath
import RecordSynth.Proofs.Properties
import RecordSynth.Proofs.TypeExpr.RoundTrip
import RecordSynth.Settings.Domain
import RecordSynth.Settings.Service
/-!
# What the settings of plugins depend on

A plugin looks up the keys it knows and trims what it finds, so properties with the same trimmed
values under these keys give the same settings, and the same fault where they give one. A value of
blanks is as good as none. The domain plugin reads words, for which the case of letters does not
matter either.
-/

namespace RecordSynth

open QualifiedName (IsNameText)
open PackagePath (IsPackageText)

/-! ## Texts up to blanks around them and case -/

namespace Text

/-- One text is the other with blanks around it, or they differ in the case of letters alone. -/
inductive Restyled : String → String → Prop
  | padded {lead trail : List Char} (s : String) (before : Blanks lead) (behind : Blanks trail) :
    Restyled s (String.ofList (lead ++ s.toList ++ trail))
  | recased {s t : String} (same : equalIgnoringCase s t = true) : Restyled s t

theorem trim_padded {lead trail : List Char} (before : Blanks lead) (behind : Blanks trail)
    (s : String) : trim (String.ofList (lead ++ s.toList ++ trail)) = trim s := by
  rw [trim, String.toList_ofList, trimChars_append before behind, trim]

theorem Restyled.lowerAscii_trim_eq {s t : String} (step : Restyled s t) :
    lowerAscii (trim s) = lowerAscii (trim t) := by
  cases step with
  | padded _ before behind => rw [trim_padded before behind]
  | recased same => rw [lowerAscii_trim, equalIgnoringCase_iff.1 same, ← lowerAscii_trim]

/-- Texts can be restyled into each other exactly if they are the same word in small letters. -/
theorem eqvGen_restyled_iff {s t : String} :
    Relation.EqvGen Restyled s t ↔ lowerAscii (trim s) = lowerAscii (trim t) := by
  constructor
  · intro steps
    have alike : Equivalence fun s t : String => lowerAscii (trim s) = lowerAscii (trim t) :=
      eq_equivalence.comap fun s => lowerAscii (trim s)
    exact alike.eqvGen_iff.1 (steps.mono fun _ _ => Restyled.lowerAscii_trim_eq)
  · intro same
    have trimmed : ∀ s, Relation.EqvGen Restyled (trim s) s := by
      intro s
      obtain ⟨lead, trail, before, behind, parts⟩ := exists_trimChars s.toList
      have whole := Restyled.padded (trim s) before behind
      rw [toList_trim, ← parts, String.ofList_toList] at whole
      exact .rel _ _ whole
    have recased : Restyled (trim s) (trim t) := .recased (equalIgnoringCase_iff.2 same)
    exact ((trimmed s).symm.trans _ _ _ (.rel _ _ recased)).trans _ _ _ (trimmed t)

end Text

/-! ## Maps that agree on some keys -/

namespace Keyed

variable {α : Type}

/-- The entries under the given keys are the same up to order; of other entries nothing is said. -/
structure SameOn (keys : List String) (m n : Keyed α) : Prop where
  distinct : m.Distinct
  distinct' : n.Distinct
  same : (m.entries.filter (·.1 ∈ keys)).Perm (n.entries.filter (·.1 ∈ keys))

theorem get?_filter {keys : List String} {key : String} (known : key ∈ keys) (m : Keyed α) :
    get? ⟨m.entries.filter (·.1 ∈ keys)⟩ key = m.get? key := by
  have found := lookup_filter (fun k => decide (k ∈ keys)) m.entries key
  rw [if_pos (decide_eq_true known)] at found
  exact found

theorem SameOn.get?_eq {keys : List String} {m n : Keyed α} (agree : SameOn keys m n) {key : String}
    (known : key ∈ keys) : m.get? key = n.get? key := by
  have distinct : Distinct ⟨m.entries.filter (·.1 ∈ keys)⟩ :=
    agree.distinct.sublist (List.filter_sublist.map Prod.fst)
  rw [← get?_filter known m, ← get?_filter known n]
  exact distinct.get?_eq_of_perm agree.same key

end Keyed

/-! ## Properties with the same trimmed values -/

namespace Properties

variable {p q : Properties} {key : String}

/-- The key is absent or has a value of blanks. -/
def Unfilled (p : Properties) (key : String) : Prop :=
  ∀ v, p.get? key = some v → Text.Blanks v.toList

/-- The key has a value that is more than blanks, and this is it without the blanks around it. -/
def Fills (p : Properties) (key t : String) : Prop :=
  ∃ v, p.get? key = some v ∧ ¬ Text.Blanks v.toList ∧ Text.trim v = t

/-- The key has a word for its value, in some style. -/
def Styles (p : Properties) (key word : String) : Prop :=
  ∃ v, p.get? key = some v ∧ Relation.EqvGen Text.Restyled v word

/-- Both have values that are the same once trimmed, or neither has more than blanks. -/
def SameFilled (p q : Properties) (key : String) : Prop :=
  (∃ v w, p.get? key = some v ∧ q.get? key = some w ∧ Text.trim v = Text.trim w) ∨
    p.Unfilled key ∧ q.Unfilled key

/-- The value of a key is more than blanks and of no valid form. -/
def Faulty (p : Properties) (key : String) (Valid : String → Prop) (v : String) : Prop :=
  p.get? key = some v ∧ ¬ Text.Blanks v.toList ∧ ¬ Valid v

theorem filled?_eq_some_iff {t : String} : p.filled? key = some t ↔ p.Fills key t := by
  unfold filled? Fills
  cases p.get? key with
  | none => simp
  | some v => by_cases blank : Text.trim v = "" <;> simp [blank, ← Text.trim_eq_empty_iff]

theorem filled?_eq_none_iff : p.filled? key = none ↔ p.Unfilled key := by
  unfold filled? Unfilled
  cases p.get? key with
  | none => simp
  | some v => simp [← Text.trim_eq_empty_iff]

/-- All that is read of a key is its trimmed value. -/
theorem SameFilled.filled?_eq (same : SameFilled p q key) : p.filled? key = q.filled? key := by
  rcases same with ⟨v, w, left, right, trimmed⟩ | ⟨left, right⟩
  · rw [filled?, filled?, left, right]
    dsimp only
    rw [trimmed]
  · rw [filled?_eq_none_iff.2 left, filled?_eq_none_iff.2 right]

theorem sameFilled_of_get?_eq (same : p.get? key = q.get? key) : SameFilled p q key := by
  cases found : p.get? key with
  | none =>
    refine .inr ⟨?_, ?_⟩
    · intro v given
      rw [found] at given
      cases given
    · intro v given
      rw [← same, found] at given
      cases given
  | some v => exact .inl ⟨v, v, found, same ▸ found, rfl⟩

/-- The word that a value is: trimmed and in small letters. -/
def word? (value : Option String) : Option String :=
  value.map fun v => Text.lowerAscii (Text.trim v)

theorem word?_eq_some_iff {word : String} (plain : Text.lowerAscii (Text.trim word) = word) :
    word? (p.get? key) = some word ↔ p.Styles key word := by
  simp only [word?, Option.map_eq_some_iff, Styles, Text.eqvGen_restyled_iff, plain]

theorem saysTrue_eq (value : Option String) : saysTrue value = (word? value == some "true") := by
  cases value with
  | none => rfl
  | some v => rw [saysTrue, word?, Option.map_some, Option.some_beq_some]

theorem isTrue_iff : p.isTrue key = true ↔ p.Styles key "true" := by
  rw [isTrue, saysTrue_eq, beq_iff_eq, word?_eq_some_iff (by decide)]

theorem isTrue_eq_false_of_unfilled (blank : p.Unfilled key) : p.isTrue key = false := by
  unfold isTrue saysTrue
  cases found : p.get? key with
  | none => rfl
  | some v =>
    dsimp only
    rw [Text.trim_eq_empty_iff.2 (blank v found)]
    decide

end Properties

/-! ## Settings of the service plugin -/

namespace ServiceSettings

open Properties (SameFilled Faulty filled?_eq_some_iff)

variable {p q : Properties}

/-- The keys that the plugin knows. -/
def knownKeys : List String :=
  ["disable", "targetProject", "targetPackage", "basicService", "basicServiceImpl"]

/-- The same is read from both under every key that the plugin knows. -/
structure SameSource (p q : Properties) : Prop where
  disable : p.isTrue "disable" = q.isTrue "disable"
  project : SameFilled p q "targetProject"
  package : SameFilled p q "targetPackage"
  interface : SameFilled p q "basicService"
  implementation : SameFilled p q "basicServiceImpl"

/-- The settings are what stands under the keys that the plugin knows. -/
structure ReadFrom (p : Properties) (s : ServiceSettings) : Prop where
  disable : s.disable = true ↔ p.Styles "disable" "true"
  project : ∀ t, s.targetProject = some t ↔ p.Fills "targetProject" t
  package : ∀ t, s.targetPackage.map (·.text) = some t ↔ p.Fills "targetPackage" t
  interface : ∀ t, s.basicService.map (·.text) = some t ↔ p.Fills "basicService" t
  implementation : ∀ t, s.basicServiceImpl.map (·.text) = some t ↔ p.Fills "basicServiceImpl" t

/-- What is wrong with the first of the package, the base interface and the base class with which
anything is. -/
inductive FirstFault (p : Properties) : Error → Prop
  | package {v : String} (wrong : Faulty p "targetPackage" IsPackageText v) :
    FirstFault p (.invalidPackage (Text.trim v))
  | interface {v : String} (package : ∀ w, ¬ Faulty p "targetPackage" IsPackageText w)
    (wrong : Faulty p "basicService" IsNameText v) : FirstFault p (.invalidType (Text.trim v))
  | implementation {v : String} (package : ∀ w, ¬ Faulty p "targetPackage" IsPackageText w)
    (interface : ∀ w, ¬ Faulty p "basicService" IsNameText w)
    (wrong : Faulty p "basicServiceImpl" IsNameText v) : FirstFault p (.invalidType (Text.trim v))

theorem SameSource.ofProperties_eq (same : SameSource p q) : ofProperties p = ofProperties q := by
  simp only [ofProperties, readFilled, same.disable, same.project.filled?_eq,
    same.package.filled?_eq, same.interface.filled?_eq, same.implementation.filled?_eq]

theorem sameSource_of_get?_eq (same : ∀ key ∈ knownKeys, p.get? key = q.get? key) :
    SameSource p q where
  disable := by rw [Properties.isTrue, Properties.isTrue, same "disable" (by decide)]
  project := Properties.sameFilled_of_get?_eq (same _ (by decide))
  package := Properties.sameFilled_of_get?_eq (same _ (by decide))
  interface := Properties.sameFilled_of_get?_eq (same _ (by decide))
  implementation := Properties.sameFilled_of_get?_eq (same _ (by decide))

/-- A blank value under a key is as good as no value. -/
theorem sameSource_set_blank {v : String} (blank : Text.Blanks v.toList) (p : Properties)
    (key : String) : SameSource (p.set key v) (p.erase key) := by
  have unset : Properties.Unfilled (p.set key v) key := by
    intro w given
    rw [Keyed.get?_set, if_pos rfl] at given
    rwa [← Option.some.inj given]
  have unset' : Properties.Unfilled (p.erase key) key := by
    intro w given
    rw [Keyed.get?_erase, if_pos rfl] at given
    cases given
  have others : ∀ k, k ≠ key → Keyed.get? (p.set key v) k = Keyed.get? (p.erase key) k := by
    intro k other
    rw [Keyed.get?_set, Keyed.get?_erase, if_neg other, if_neg other]
  have filled : ∀ k, SameFilled (p.set key v) (p.erase key) k := by
    intro k
    by_cases asked : k = key
    · rw [asked]
      exact .inr ⟨unset, unset'⟩
    · exact Properties.sameFilled_of_get?_eq (others k asked)
  refine ⟨?_, filled _, filled _, filled _, filled _⟩
  by_cases asked : "disable" = key
  · rw [asked, Properties.isTrue_eq_false_of_unfilled unset,
      Properties.isTrue_eq_false_of_unfilled unset']
  · rw [Properties.isTrue, Properties.isTrue, others _ asked]

/-! ### Faults -/

/-- A reading that looks through blanks around a text and refuses what is of no valid form. -/
structure Reads {α : Type} (read : String → Except Error α) (Valid : String → Prop)
    (refusal : String → Error) : Prop where
  refused_iff : ∀ s e, read s = .error e ↔ ¬ Valid s ∧ e = refusal s
  trimmed_iff : ∀ s, Valid (Text.trim s) ↔ Valid s

theorem reads_package : Reads PackagePath.parse IsPackageText .invalidPackage where
  refused_iff s e := PackagePath.parse_eq_error_iff
  trimmed_iff s := by rw [IsPackageText, IsPackageText, Text.trim_trim]

theorem reads_base : Reads readBase IsNameText .invalidType where
  refused_iff s e := by
    rw [← QualifiedName.parse_eq_error_iff, readBase]
    cases QualifiedName.parse s <;> simp
  trimmed_iff s := by rw [IsNameText, IsNameText, Text.trim_trim]

section

variable {α : Type} {read : String → Except Error α} {Valid : String → Prop}
  {refusal : String → Error} {key : String} {e : Error}

/-- A key is refused just if its value is more than blanks and of no valid form. -/
theorem Reads.readFilled_eq_error_iff (reads : Reads read Valid refusal) :
    readFilled p key read = .error e ↔ ∃ v, Faulty p key Valid v ∧ e = refusal (Text.trim v) := by
  have answer : readFilled p key read = .error e ↔
      ∃ t, p.filled? key = some t ∧ read t = .error e := by
    unfold readFilled
    cases p.filled? key with
    | none => simp
    | some t => cases result : read t <;> simp [result]
  rw [answer]
  constructor
  · rintro ⟨t, filled, wrong⟩
    obtain ⟨v, given, solid, rfl⟩ := filled?_eq_some_iff.1 filled
    obtain ⟨other, rfl⟩ := (reads.refused_iff _ _).1 wrong
    exact ⟨v, ⟨given, solid, fun valid => other ((reads.trimmed_iff v).2 valid)⟩, rfl⟩
  · rintro ⟨v, ⟨given, solid, other⟩, rfl⟩
    refine ⟨Text.trim v, filled?_eq_some_iff.2 ⟨v, given, solid, rfl⟩, ?_⟩
    apply (reads.refused_iff _ _).2
    exact ⟨fun valid => other ((reads.trimmed_iff v).1 valid), rfl⟩

theorem Reads.exists_readFilled_iff (reads : Reads read Valid refusal) :
    (∃ a, readFilled p key read = .ok a) ↔ ∀ v, ¬ Faulty p key Valid v := by
  have refused : (∃ e, readFilled p key read = .error e) ↔ ∃ v, Faulty p key Valid v := by
    simp [reads.readFilled_eq_error_iff]
  rw [← not_exists, ← refused]
  cases readFilled p key read <;> simp

end

/-- The readings are made one after another, and the first that is refused decides. -/
theorem ofProperties_eq_error_iff {e : Error} : ofProperties p = .error e ↔ FirstFault p e := by
  simp only [ofProperties, bind_eq_error_iff, reads_package.readFilled_eq_error_iff,
    reads_base.readFilled_eq_error_iff]
  constructor
  · rintro (⟨v, wrong, rfl⟩ | ⟨a, first, ⟨v, wrong, rfl⟩ | ⟨b, second, others⟩⟩)
    · exact .package wrong
    · exact .interface (reads_package.exists_readFilled_iff.1 ⟨a, first⟩) wrong
    · have sound := reads_package.exists_readFilled_iff.1 ⟨a, first⟩
      have sound' := reads_base.exists_readFilled_iff.1 ⟨b, second⟩
      rcases others with ⟨v, wrong, rfl⟩ | ⟨c, -, returned⟩
      · exact .implementation sound sound' wrong
      · cases returned
  · intro fault
    cases fault with
    | package wrong => exact .inl ⟨_, wrong, rfl⟩
    | interface package wrong =>
      obtain ⟨a, first⟩ := reads_package.exists_readFilled_iff.2 package
      exact .inr ⟨a, first, .inl ⟨_, wrong, rfl⟩⟩
    | implementation package interface wrong =>
      obtain ⟨a, first⟩ := reads_package.exists_readFilled_iff.2 package
      obtain ⟨b, second⟩ := reads_base.exists_readFilled_iff.2 interface
      exact .inr ⟨a, first, .inr ⟨b, second, .inl ⟨_, wrong, rfl⟩⟩⟩

/-- What is read of a key is its value, without the blanks around it. -/
theorem map_text_eq_some_iff {α : Type} {read : String → Except Error α} {text : α → String}
    (spelled : ∀ s a, read s = .ok a → text a = Text.trim s) {key : String} {o : Option α}
    (made : readFilled p key read = .ok o) (t : String) :
    o.map text = some t ↔ p.Fills key t := by
  rw [← filled?_eq_some_iff]
  unfold readFilled at made
  cases filled : p.filled? key with
  | none =>
    rw [filled] at made
    cases made
    simp
  | some u =>
    obtain ⟨v, -, -, rfl⟩ := filled?_eq_some_iff.1 filled
    rw [filled] at made
    cases given : read (Text.trim v) with
    | error e =>
      simp only [given] at made
      cases made
    | ok a =>
      simp only [given] at made
      cases made
      rw [Option.map_some, spelled _ _ given, Text.trim_trim]

theorem text_of_readBase {s : String} {t : TypeExpr} (read : readBase s = .ok t) :
    t.text = Text.trim s := by
  unfold readBase at read
  cases named : QualifiedName.parse s with
  | error e =>
    rw [named] at read
    cases read
  | ok n =>
    rw [named] at read
    cases read
    rw [TypeExpr.text_ofName, QualifiedName.parse_eq_ok_iff.1 named]

theorem readFrom_of_ofProperties {s : ServiceSettings} (made : ofProperties p = .ok s) :
    s.ReadFrom p := by
  simp only [ofProperties, bind_eq_ok_iff] at made
  obtain ⟨package, first, interface, second, implementation, third, returned⟩ := made
  obtain rfl := Except.ok.inj returned
  exact {
    disable := Properties.isTrue_iff
    project := fun t => filled?_eq_some_iff
    package := map_text_eq_some_iff (fun s a => PackagePath.parse_eq_ok_iff.1) first
    interface := map_text_eq_some_iff (fun s a => text_of_readBase) second
    implementation := map_text_eq_some_iff (fun s a => text_of_readBase) third }

/-- Something is wrong first just if something is wrong. -/
theorem exists_firstFault_iff : (∃ e, FirstFault p e) ↔
    (∃ v, Faulty p "targetPackage" IsPackageText v) ∨ (∃ v, Faulty p "basicService" IsNameText v) ∨
      ∃ v, Faulty p "basicServiceImpl" IsNameText v := by
  constructor
  · rintro ⟨e, fault⟩
    cases fault with
    | package wrong => exact .inl ⟨_, wrong⟩
    | interface _ wrong => exact .inr (.inl ⟨_, wrong⟩)
    | implementation _ _ wrong => exact .inr (.inr ⟨_, wrong⟩)
  · intro faults
    by_cases package : ∃ v, Faulty p "targetPackage" IsPackageText v
    · obtain ⟨v, wrong⟩ := package
      exact ⟨_, .package wrong⟩
    · by_cases interface : ∃ v, Faulty p "basicService" IsNameText v
      · obtain ⟨v, wrong⟩ := interface
        exact ⟨_, .interface (not_exists.1 package) wrong⟩
      · obtain ⟨v, wrong⟩ := (faults.resolve_left package).resolve_left interface
        exact ⟨_, .implementation (not_exists.1 package) (not_exists.1 interface) wrong⟩

end ServiceSettings

/-! ## Settings of the domain plugin -/

theorem JsonLibrary.ofProperty_eq_iff (value : Option String) :
    (ofProperty value = .fastjson ↔ Properties.word? value = some "fastjson") ∧
      (ofProperty value = .jackson ↔ Properties.word? value = some "jackson") := by
  unfold ofProperty Properties.word?
  generalize value.map (fun v => Text.lowerAscii (Text.trim v)) = word
  split <;> simp_all

namespace DomainSettings

variable {p q : Properties}

/-- The keys that the plugin knows. -/
def knownKeys : List String := ["serializable", "dateSerialize", "json"]

/-- Under every key that the plugin knows both have values in some style of one text, or none. -/
def SameStyled (p q : Properties) : Prop :=
  ∀ key ∈ knownKeys, Option.Rel (Relation.EqvGen Text.Restyled) (p.get? key) (q.get? key)

/-- The settings are the words under the keys that the plugin knows. -/
structure ReadFrom (p : Properties) (s : DomainSettings) : Prop where
  serializable : s.serializable = true ↔ p.Styles "serializable" "true"
  dateSerialize : s.dateSerialize = true ↔ p.Styles "dateSerialize" "true"
  fastjson : s.json = .fastjson ↔ p.Styles "json" "fastjson"
  jackson : s.json = .jackson ↔ p.Styles "json" "jackson"

theorem readFrom_ofProperties (p : Properties) : (ofProperties p).ReadFrom p := by
  obtain ⟨fastjson, jackson⟩ := JsonLibrary.ofProperty_eq_iff (p.get? "json")
  refine ⟨Properties.isTrue_iff, Properties.isTrue_iff, ?_, ?_⟩
  · rw [← Properties.word?_eq_some_iff (by decide)]
    exact fastjson
  · rw [← Properties.word?_eq_some_iff (by decide)]
    exact jackson

/-- All that is read of a value is the word that it is, trimmed and in small letters. -/
theorem SameStyled.ofProperties_eq (same : SameStyled p q) : ofProperties p = ofProperties q := by
  have words : ∀ key ∈ knownKeys,
      Properties.word? (p.get? key) = Properties.word? (q.get? key) := by
    intro key known
    have styled := same key known
    generalize p.get? key = v, q.get? key = w at styled
    cases styled with
    | some steps => exact congrArg some (Text.eqvGen_restyled_iff.1 steps)
    | none => rfl
  have yes : ∀ key ∈ knownKeys, p.isTrue key = q.isTrue key := by
    intro key known
    rw [Properties.isTrue, Properties.isTrue, Properties.saysTrue_eq, words key known,
      Properties.saysTrue_eq]
  have library :
      JsonLibrary.ofProperty (p.get? "json") = JsonLibrary.ofProperty (q.get? "json") := by
    have word := words "json" (by decide)
    unfold Properties.word? at word
    rw [JsonLibrary.ofProperty, JsonLibrary.ofProperty, word]
  rw [ofProperties, ofProperties, yes "serializable" (by decide), yes "dateSerialize" (by decide),
    library]

theorem sameStyled_of_get?_eq (same : ∀ key ∈ knownKeys, p.get? key = q.get? key) :
    SameStyled p q := by
  intro key known
  rw [same key known]
  cases q.get? key with
  | none => exact .none
  | some v => exact .some (.refl v)

end DomainSettings

/-! ## Properties and the settings they give -/

/-- The settings of the service plugin are the trimmed values of the keys that it knows, blank values
counting as none, and whether `disable` is true. So they depend on nothing else: neither the order of
the properties nor other keys matter, and to set a key to a blank value is to remove it. There are
none just if a package or a name is given that is none, and the first such is the one reported. The
settings of the domain plugin depend on no order or other keys either, nor on blanks around its
values or their case. -/
theorem Properties.settings_of_trimmed_values (p : Properties) :
    (∀ q, ServiceSettings.SameSource p q →
      ServiceSettings.ofProperties p = ServiceSettings.ofProperties q) ∧
    (∀ q, Keyed.SameOn ServiceSettings.knownKeys p q →
      ServiceSettings.ofProperties p = ServiceSettings.ofProperties q) ∧
    (∀ key v, Text.Blanks v.toList →
      ServiceSettings.ofProperties (p.set key v) = ServiceSettings.ofProperties (p.erase key)) ∧
    ((∃ e, ServiceSettings.ofProperties p = .error e) ↔
      (∃ v, p.Faulty "targetPackage" IsPackageText v) ∨
        (∃ v, p.Faulty "basicService" IsNameText v) ∨
        ∃ v, p.Faulty "basicServiceImpl" IsNameText v) ∧
    (∀ e, ServiceSettings.ofProperties p = .error e ↔ ServiceSettings.FirstFault p e) ∧
    (∀ s, ServiceSettings.ofProperties p = .ok s → s.ReadFrom p) ∧
    (∀ q, DomainSettings.SameStyled p q →
      DomainSettings.ofProperties p = DomainSettings.ofProperties q) ∧
    (∀ q, Keyed.SameOn DomainSettings.knownKeys p q →
      DomainSettings.ofProperties p = DomainSettings.ofProperties q) ∧
    (DomainSettings.ofProperties p).ReadFrom p := by
  refine ⟨?_, ?_, ?_, ?_, ?_, ?_, ?_, ?_, DomainSettings.readFrom_ofProperties p⟩
  · intro q same
    exact same.ofProperties_eq
  · intro q agree
    exact (ServiceSettings.sameSource_of_get?_eq fun _ => agree.get?_eq).ofProperties_eq
  · intro key v blank
    exact (ServiceSettings.sameSource_set_blank blank p key).ofProperties_eq
  · simp only [ServiceSettings.ofProperties_eq_error_iff]
    exact ServiceSettings.exists_firstFault_iff
  · intro e
    exact ServiceSettings.ofProperties_eq_error_iff
  · intro s made
    exact ServiceSettings.readFrom_of_ofProperties made
  · intro q same
    exact same.ofProperties_eq
  · intro q agree
    exact (DomainSettings.sameStyled_of_get?_eq fun _ => agree.get?_eq).ofProperties_eq

/-- Blanks around a name and a blank package change nothing, the name that is none included; without
that name the base class is read. -/
theorem Properties.settings_of_trimmed_values_fault :
    let p : Properties := .ofList [("basicService", " a..B "), ("basicServiceImpl", "a.Impl")]
    let q : Properties :=
      .ofList [("basicServiceImpl", "a.Impl\n"), ("basicService", "a..B"), ("order", "1")]
    ServiceSettings.ofProperties p = ServiceSettings.ofProperties q ∧
      ServiceSettings.ofProperties p = .error (.invalidType "a..B") ∧
      ServiceSettings.ofProperties (p.set "basicService" " ") =
        ServiceSettings.ofProperties (p.erase "basicService") ∧
      ∃ s, ServiceSettings.ofProperties (p.erase "basicService") = .ok s ∧
        s.basicServiceImpl.map (·.text) = some "a.Impl" := by
  intro p q
  have refused : ServiceSettings.ofProperties p = .error (.invalidType "a..B") := by decide +kernel
  have space : Text.Blanks " ".toList := Text.trim_eq_empty_iff.1 (by decide)
  obtain ⟨equal, -, blank, -⟩ := p.settings_of_trimmed_values
  obtain ⟨-, -, -, -, -, made, -⟩ :=
    Properties.settings_of_trimmed_values (p.erase "basicService")
  refine ⟨equal q ⟨by decide, ?_, ?_, ?_, ?_⟩, refused, blank _ _ space, ?_⟩
  · exact Properties.sameFilled_of_get?_eq (by decide)
  · exact Properties.sameFilled_of_get?_eq (by decide)
  · exact .inl ⟨_, _, rfl, rfl, by decide⟩
  · exact .inl ⟨_, _, rfl, rfl, by decide⟩
  · let impl : QualifiedName :=
      { scope := [⟨"a", by decide⟩], simple := ⟨"Impl", by decide⟩ }
    have read : ServiceSettings.ofProperties (p.erase "basicService") =
        .ok { basicServiceImpl := some (.ofName impl) } := by decide +kernel
    refine ⟨_, read, ((made _ read).implementation "a.Impl").2 ⟨"a.Impl", rfl, ?_, by decide⟩⟩
    exact fun only => absurd (Text.trim_eq_empty_iff.2 only) (by decide)

end RecordSynth
