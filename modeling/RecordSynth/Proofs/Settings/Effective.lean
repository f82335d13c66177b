import RecordSynth.Proofs.Command.Run
import RecordSynth.Proofs.Settings.Document
/-!
# The properties of a run

What the sections of a settings document and the assignments behind it come to. A section is refused
for its first value that is a list or a map. Otherwise a key has the value of its last assignment, or
else the text of its scalar in the document; it stands where the document has it, or behind all of
these where it was first assigned: `SettingsDocument.effective_properties`.
-/

namespace RecordSynth

namespace Json

/-- Whether a value is null. -/
def isNull : Json → Bool
  | .null => true
  | _ => false

/-- A list or a map. -/
inductive IsComposite : Json → Prop
  | list (items : List Json) : IsComposite (.array items)
  | map (members : List (String × Json)) : IsComposite (.object members)

/-- A scalar other than null, and its text. -/
inductive ScalarText : Json → String → Prop
  | text (s : String) : ScalarText (.text s) s
  | true : ScalarText (.bool true) "true"
  | false : ScalarText (.bool false) "false"
  | number (n : Number) : ScalarText (.number n) n.text

end Json

namespace Section

open Keyed (LastEntry)

variable {s : Section} {flags : List (String × String)} {p : Properties}

/-- The keys that are not null, in the order of the document. -/
def writtenKeys (s : Section) : List String := (s.entries.filter (!·.2.isNull)).map (·.1)

/-- The first key with a list or a map for its value. -/
def FirstComposite (s : Section) (key : String) : Prop :=
  ∃ before v after, s.entries = before ++ (key, v) :: after ∧ v.IsComposite ∧
    ∀ e ∈ before, ¬ e.2.IsComposite

/-- What a section and assignments come to. -/
structure Effective (s : Section) (flags : List (String × String)) (p : Properties) : Prop where
  /-- The last assignment to a key counts, and the document where there is none. -/
  get?_iff : ∀ key text, p.get? key = some text ↔
    LastEntry flags key text ∨
      key ∉ flags.map (·.1) ∧ ∃ v, s.get? key = some v ∧ v.ScalarText text
  /-- Keys of the document keep their places; behind them come new ones as they first appear. -/
  keys_eq : p.keys =
    s.writtenKeys ++ ((flags.map (·.1)).filter (· ∉ s.writtenKeys)).eraseDups

/-- What is reported of a list or a map, by its section and its key. -/
def notScalar (name key : String) : Error :=
  .operation ("property '" ++ name ++ "." ++ key ++ "' must be a scalar value")

/-! ## Scalars -/

theorem scalar?_eq_none_iff {v : Json} (formed : v ≠ .illFormed) :
    scalar? v = none ↔ v.IsComposite := by
  cases v with
  | array items => simp [scalar?, Json.IsComposite.list]
  | object members => simp [scalar?, Json.IsComposite.map]
  | illFormed => exact absurd rfl formed
  | null | bool | number | text =>
    simp only [scalar?, reduceCtorEq, false_iff]
    rintro ⟨⟩

theorem scalar?_eq_some_none_iff {v : Json} : scalar? v = some none ↔ v.isNull = true := by
  cases v <;> simp [scalar?, Json.isNull]

theorem scalar?_eq_some_some_iff {v : Json} {text : String} :
    scalar? v = some (some text) ↔ v.ScalarText text := by
  constructor
  · intro spelled
    cases v with
    | bool b =>
      cases spelled
      cases b with
      | true => exact .true
      | false => exact .false
    | number n =>
      cases spelled
      exact .number n
    | text s =>
      cases spelled
      exact .text _
    | null | array | object | illFormed => cases spelled
  · rintro (s | _ | _ | n) <;> rfl

/-! ## Sections on their own -/

section

variable {entries : List (String × Json)} {e : String × Json} {key : String}

/-- The first list or map is the first entry, or is found behind it. -/
theorem firstComposite_cons :
    FirstComposite ⟨e :: entries⟩ key ↔
      e.2.IsComposite ∧ key = e.1 ∨ ¬ e.2.IsComposite ∧ FirstComposite ⟨entries⟩ key := by
  constructor
  · rintro ⟨before, v, after, parts, composite, others⟩
    cases before with
    | nil =>
      cases parts
      exact .inl ⟨composite, rfl⟩
    | cons b before =>
      cases parts
      rw [List.forall_mem_cons] at others
      exact .inr ⟨others.1, before, v, after, rfl, composite, others.2⟩
  · rintro (⟨composite, rfl⟩ | ⟨scalar, before, v, after, parts, composite, others⟩)
    · exact ⟨[], e.2, entries, rfl, composite, List.forall_mem_nil _⟩
    · exact ⟨e :: before, v, after, congrArg (e :: ·) parts, composite,
        List.forall_mem_cons.2 ⟨scalar, others⟩⟩

theorem exists_firstComposite_iff (entries : List (String × Json)) :
    (∃ key, FirstComposite ⟨entries⟩ key) ↔ ∃ e ∈ entries, e.2.IsComposite := by
  induction entries with
  | nil => simp [FirstComposite]
  | cons e entries ih =>
    simp only [firstComposite_cons, List.exists_mem_cons_iff]
    rw [← ih]
    by_cases composite : e.2.IsComposite <;> simp [composite]

/-- Reading stops at the first entry that is no scalar. -/
theorem texts_eq_error_iff (formed : ∀ e ∈ entries, e.2 ≠ .illFormed) :
    texts entries = .error key ↔ FirstComposite ⟨entries⟩ key := by
  induction entries with
  | nil => simp [texts, FirstComposite]
  | cons e entries ih =>
    rw [List.forall_mem_cons] at formed
    rw [firstComposite_cons, ← ih formed.2, ← scalar?_eq_none_iff formed.1]
    obtain ⟨k, v⟩ := e
    rw [texts]
    cases scalar? v with
    | none => simp [eq_comm]
    | some spelled =>
      cases spelled with
      | none => simp
      | some text => cases texts entries <;> simp

/-- Entries that are scalars, as texts. -/
def spelled (entries : List (String × Json)) : List (String × String) :=
  entries.filterMap fun e => (scalar? e.2).join.map fun text => (e.1, text)

theorem texts_eq_spelled (formed : ∀ e ∈ entries, e.2 ≠ .illFormed)
    (scalars : ∀ e ∈ entries, ¬ e.2.IsComposite) : texts entries = .ok (spelled entries) := by
  induction entries with
  | nil => rfl
  | cons e entries ih =>
    rw [List.forall_mem_cons] at formed scalars
    have rest := ih formed.2 scalars.2
    obtain ⟨k, v⟩ := e
    rw [texts, spelled, List.filterMap_cons]
    cases given : scalar? v with
    | none => exact absurd ((scalar?_eq_none_iff formed.1).1 given) scalars.1
    | some spelling =>
      cases spelling with
      | none => exact rest
      | some text =>
        dsimp only
        rw [rest]
        rfl

theorem mem_spelled {text : String} :
    (key, text) ∈ spelled entries ↔ ∃ v, (key, v) ∈ entries ∧ v.ScalarText text := by
  simp [spelled, Option.join_eq_some_iff, scalar?_eq_some_some_iff]

/-- Nulls are left out, and nothing else is. -/
theorem map_fst_spelled (formed : ∀ e ∈ entries, e.2 ≠ .illFormed)
    (scalars : ∀ e ∈ entries, ¬ e.2.IsComposite) :
    (spelled entries).map (·.1) = writtenKeys ⟨entries⟩ := by
  induction entries with
  | nil => rfl
  | cons e entries ih =>
    rw [List.forall_mem_cons] at formed scalars
    have rest := ih formed.2 scalars.2
    rw [writtenKeys, spelled] at rest ⊢
    rw [List.filterMap_cons, List.filter_cons]
    cases given : scalar? e.2 with
    | none => exact absurd ((scalar?_eq_none_iff formed.1).1 given) scalars.1
    | some spelling =>
      cases spelling with
      | none =>
        have null := scalar?_eq_some_none_iff.1 given
        simpa [null] using rest
      | some text =>
        have filled : e.2.isNull = false := by
          rw [← Bool.not_eq_true, ← scalar?_eq_some_none_iff, given]
          simp
        simpa [filled] using rest

end

/-- A section without lists and maps has properties, and with assignments they are as they should
be. -/
theorem exists_effective (decoded : s.Decoded) (scalars : ∀ e ∈ s.entries, ¬ e.2.IsComposite)
    (name : String) (flags : List (String × String)) :
    ∃ p, properties name s = .ok p ∧ s.Effective flags (p.setAll flags) := by
  have keys := map_fst_spelled decoded.formed scalars
  have distinct : ((spelled s.entries).map (·.1)).Nodup := by
    rw [keys]
    exact decoded.distinct.sublist (List.filter_sublist.map _)
  have entries := Keyed.entries_ofList distinct
  refine ⟨.ofList (spelled s.entries), ?_, ?_, ?_⟩
  · rw [properties, texts_eq_spelled decoded.formed scalars]
  · intro key text
    rw [Keyed.get?_setAll, (Keyed.distinct_ofList _).get?_eq_some_iff, entries, mem_spelled]
    simp only [decoded.distinct.get?_eq_some_iff]
  · rw [Keyed.keys_setAll, Keyed.keys, entries, keys]

theorem properties_eq_error_iff (decoded : s.Decoded) (name : String) {e : Error} :
    properties name s = .error e ↔ ∃ key, s.FirstComposite key ∧ e = notScalar name key := by
  have stops : ∀ key, texts s.entries = .error key ↔ s.FirstComposite key := fun key =>
    texts_eq_error_iff decoded.formed
  simp only [← stops, properties]
  cases texts s.entries <;> simp [notScalar, eq_comm]

theorem scalars_of_properties (decoded : s.Decoded) {name : String}
    (made : properties name s = .ok p) : ∀ e ∈ s.entries, ¬ e.2.IsComposite := by
  intro e member composite
  obtain ⟨key, first⟩ := (exists_firstComposite_iff s.entries).2 ⟨e, member, composite⟩
  have stopped := (properties_eq_error_iff decoded name).2 ⟨key, first, rfl⟩
  cases made.symm.trans stopped

end Section

/-! ## Documents -/

namespace SettingsDocument

/-- The first value that cannot become a text, by its section and its key. The section of the service
comes first. -/
inductive FirstFault (d : SettingsDocument) : String → String → Prop
  | service {key : String} (first : d.service.FirstComposite key) : FirstFault d "service" key
  | domain {key : String} (sound : ∀ e ∈ d.service.entries, ¬ e.2.IsComposite)
    (first : d.domain.FirstComposite key) : FirstFault d "domain" key

variable {d : SettingsDocument}

theorem exists_firstFault_iff :
    (∃ name key, d.FirstFault name key) ↔
      ∃ e ∈ d.service.entries ++ d.domain.entries, e.2.IsComposite := by
  have inService := Section.exists_firstComposite_iff d.service.entries
  have inDomain := Section.exists_firstComposite_iff d.domain.entries
  constructor
  · rintro ⟨name, key, fault⟩
    cases fault with
    | service first =>
      obtain ⟨e, member, composite⟩ := inService.1 ⟨key, first⟩
      exact ⟨e, List.mem_append_left _ member, composite⟩
    | domain sound first =>
      obtain ⟨e, member, composite⟩ := inDomain.1 ⟨key, first⟩
      exact ⟨e, List.mem_append_right _ member, composite⟩
  · rintro ⟨e, member, composite⟩
    by_cases sound : ∀ e ∈ d.service.entries, ¬ e.2.IsComposite
    · have late := (List.mem_append.1 member).resolve_left fun early => sound e early composite
      obtain ⟨key, first⟩ := inDomain.2 ⟨e, late, composite⟩
      exact ⟨"domain", key, .domain sound first⟩
    · push Not at sound
      obtain ⟨key, first⟩ := inService.2 sound
      exact ⟨"service", key, .service first⟩

/-- Sections without lists and maps come to properties, and assignments come on top of them. -/
theorem exists_ofDocument (decoded : d.Decoded)
    (scalars : ∀ e ∈ d.service.entries ++ d.domain.entries, ¬ e.2.IsComposite)
    (service domain : List (String × String)) :
    ∃ settings, RunSettings.ofDocument d = .ok settings ∧
      d.service.Effective service (settings.assign service domain).service ∧
      d.domain.Effective domain (settings.assign service domain).domain := by
  rw [List.forall_mem_append] at scalars
  obtain ⟨p, made, effective⟩ :=
    Section.exists_effective decoded.service scalars.1 "service" service
  obtain ⟨q, made', effective'⟩ :=
    Section.exists_effective decoded.domain scalars.2 "domain" domain
  refine ⟨{ recordProject := d.recordProject.getD defaultRecordProject, service := p, domain := q },
    ?_, effective, effective'⟩
  rw [RunSettings.ofDocument, made, made']
  rfl

theorem ofDocument_eq_error_iff (decoded : d.Decoded) {e : Error} :
    RunSettings.ofDocument d = .error e ↔
      ∃ name key, d.FirstFault name key ∧ e = Section.notScalar name key := by
  have inService := Section.properties_eq_error_iff decoded.service "service" (e := e)
  have inDomain := Section.properties_eq_error_iff decoded.domain "domain" (e := e)
  simp only [RunSettings.ofDocument, bind_eq_error_iff, inService, inDomain]
  constructor
  · rintro (⟨key, first, said⟩ | ⟨p, made, ⟨key, first, said⟩ | ⟨q, -, returned⟩⟩)
    · exact ⟨"service", key, .service first, said⟩
    · have sound := Section.scalars_of_properties decoded.service made
      exact ⟨"domain", key, .domain sound first, said⟩
    · cases returned
  · rintro ⟨name, key, fault, said⟩
    cases fault with
    | service first => exact .inl ⟨key, first, said⟩
    | domain sound first =>
      obtain ⟨p, made, -⟩ := Section.exists_effective decoded.service sound "service" []
      exact .inr ⟨p, made, .inl ⟨key, first, said⟩⟩

end SettingsDocument

/-! ## Assignments -/

/-- The key ends at the first equals sign. -/
theorem parseAssignment_append {key : String} (plain : '=' ∉ key.toList) (value : String) :
    parseAssignment (key ++ "=" ++ value) = .ok (Text.trim key, value) := by
  have letters : (key ++ "=" ++ value).toList = key.toList ++ '=' :: value.toList := by
    simp
  have front : (key ++ "=" ++ value).toList.takeWhile (· ≠ '=') = key.toList := by
    have passes : ∀ c ∈ key.toList, decide (c ≠ '=') = true := by
      intro c member
      exact decide_eq_true fun equal => plain (equal ▸ member)
    rw [letters, List.takeWhile_append_of_pos passes]
    simp
  have behind : (key ++ "=" ++ value).toList.drop key.toList.length = '=' :: value.toList := by
    rw [letters, List.drop_left]
  rw [parseAssignment, front, behind]
  simp only [String.ofList_toList]

/-- Every text with an equals sign has a key in front of the first one. -/
theorem exists_key_of_mem {s : String} (signed : '=' ∈ s.toList) :
    ∃ key value : String, '=' ∉ key.toList ∧ s = key ++ "=" ++ value := by
  obtain ⟨front, behind, parts, plain⟩ := List.eq_append_cons_of_mem signed
  refine ⟨String.ofList front, String.ofList behind, ?_, ?_⟩
  · rw [String.toList_ofList]
    exact plain
  · rw [← String.toList_inj, parts]
    simp

theorem parseAssignment_eq_error_iff {s : String} {e : Error} :
    parseAssignment s = .error e ↔ '=' ∉ s.toList ∧ e = .assignment s := by
  by_cases signed : '=' ∈ s.toList
  · obtain ⟨key, value, plain, rfl⟩ := exists_key_of_mem signed
    rw [parseAssignment_append plain]
    simp
  · have passes : ∀ c ∈ s.toList, decide (c ≠ '=') = true := by
      intro c member
      exact decide_eq_true fun equal => signed (equal ▸ member)
    rw [parseAssignment, List.takeWhile_eq_self_iff.2 passes]
    simp [signed, eq_comm]

/-! ## Runs -/

/-- The settings document that inputs name spells this one; where they name none, it is empty. -/
inductive Inputs.HasDocument (read : String → Except ReadFault String) (i : Inputs) :
    SettingsDocument → Prop
  | absent (bare : i.config = none) : HasDocument read i {}
  | spelled {path source : String} {d : SettingsDocument} (given : i.config = some path)
    (found : read path = .ok source)
    (decoded : SettingsDocument.parse? (.ofPath path) source = some d) : HasDocument read i d

namespace SettingsDocument

theorem parse_of_parse? {format : DocumentFormat} {source : String} {d : SettingsDocument}
    (decoded : parse? format source = some d) :
    RunSettings.parse format source = RunSettings.ofDocument d := by
  rw [RunSettings.parse, decoded]

theorem comesTo_loadSettings {σ : Type} {disk : Disk σ} {u : InUse σ} {i : Inputs}
    {d : SettingsDocument} {settings : RunSettings} (named : i.HasDocument (disk.read u.state) d)
    (made : RunSettings.ofDocument d = .ok settings) :
    ComesTo (i.loadSettings disk.host) u
      (.ok (settings.assign i.serviceProperties i.domainProperties)) u := by
  apply Inputs.comesTo_loadSettings
  cases named with
  | absent bare =>
    obtain rfl : {} = settings := Except.ok.inj made
    exact .assigned bare
  | spelled given found decoded =>
    rw [← parse_of_parse? decoded] at made
    exact .document given found made

theorem decoded_of_hasDocument {read : String → Except ReadFault String} {i : Inputs}
    {d : SettingsDocument} (named : i.HasDocument read d) : d.Decoded := by
  cases named with
  | absent => exact decoded_empty
  | spelled _ _ decoded => exact decoded_of_parse? decoded

/-- What any settings document and any assignments come to. Reading the document fails just if there
is a list or a map in a section, and the first one is reported, one of the service before any of the
domain. Otherwise settings are loaded, and in both sections each key has the value and the place that
it should have. An assignment is a key up to the first equals sign, without blanks around it, and a
value as it is behind that; only a text without the sign is refused. -/
theorem effective_properties (d : SettingsDocument) :
    (∀ format source, parse? format source = some d →
      ∀ e, RunSettings.parse format source = .error e ↔
        ∃ name key, d.FirstFault name key ∧ e = Section.notScalar name key) ∧
    ((∃ name key, d.FirstFault name key) ↔
      ∃ e ∈ d.service.entries ++ d.domain.entries, e.2.IsComposite) ∧
    (∀ {σ : Type} (disk : Disk σ) (u : InUse σ) (i : Inputs), i.HasDocument (disk.read u.state) d →
      (∀ e ∈ d.service.entries ++ d.domain.entries, ¬ e.2.IsComposite) →
        ∃ settings, ComesTo (i.loadSettings disk.host) u (.ok settings) u ∧
          d.service.Effective i.serviceProperties settings.service ∧
          d.domain.Effective i.domainProperties settings.domain) ∧
    (∀ key value : String, '=' ∉ key.toList →
      parseAssignment (key ++ "=" ++ value) = .ok (Text.trim key, value)) ∧
    ∀ s e, parseAssignment s = .error e ↔ '=' ∉ s.toList ∧ e = .assignment s := by
  refine ⟨?_, exists_firstFault_iff, ?_, ?_, ?_⟩
  · intro format source decoded e
    rw [parse_of_parse? decoded]
    exact ofDocument_eq_error_iff (decoded_of_parse? decoded)
  · intro σ disk u i named scalars
    obtain ⟨settings, made, service, domain⟩ := exists_ofDocument (decoded_of_hasDocument named)
      scalars i.serviceProperties i.domainProperties
    exact ⟨_, comesTo_loadSettings named made, service, domain⟩
  · intro key value plain
    exact parseAssignment_append plain value
  · intro s e
    exact parseAssignment_eq_error_iff

/-- A key that is null in the document and assigned twice goes behind the others with its last value,
and one that is assigned between keeps its place. -/
theorem effective_properties_overridden :
    let source := "\x7b\"service\":\x7b\"a\":1,\"b\":null,\"c\":\"x\"\x7d,\"domain\":\x7b\x7d\x7d"
    let d : SettingsDocument :=
      { service := ⟨[("a", .number (.integer 1)), ("b", .null), ("c", .text "x")]⟩ }
    let disk : Disk Unit := { read := fun _ _ => .ok source, write := fun _ _ _ => (.ok (), ()) }
    let flags := [("b", "2"), ("a", "3"), ("b", "4")]
    let i : Inputs := { schema := "", config := some "run.json", serviceProperties := flags }
    parse? .json source = some d ∧
      ∃ settings, ComesTo (i.loadSettings disk.host) { state := () } (.ok settings) { state := () } ∧
        settings.service.keys = ["a", "c", "b"] ∧ settings.service.get? "b" = some "4" ∧
        parseAssignment ("b" ++ "=" ++ "4") = .ok ("b", "4") := by
  intro source d disk flags i
  let document : Json := .object [("service", .object [("a", .number (.integer 1)), ("b", .null),
    ("c", .text "x")]), ("domain", .object [])]
  have spelled : Json.parse? source = some document := by
    unfold source
    cbv
  have decoded : parse? .json source = some d := by
    rw [parse?, spelled]
    cbv
  have named : i.HasDocument (disk.read ()) d := .spelled rfl rfl decoded
  have scalars : ∀ e ∈ d.service.entries ++ d.domain.entries, ¬ e.2.IsComposite := by
    intro e member composite
    simp only [d, List.append_nil, List.mem_cons, List.not_mem_nil, or_false] at member
    rcases member with rfl | rfl | rfl <;> cases composite
  obtain ⟨-, -, loads, assigned, -⟩ := effective_properties d
  obtain ⟨settings, loaded, service, -⟩ := loads disk { state := () } i named scalars
  refine ⟨decoded, settings, loaded, ?_, ?_, assigned "b" "4" (by decide)⟩
  · rw [service.keys_eq]
    decide
  · exact (service.get?_iff "b" "4").2 (.inl ⟨[("b", "2"), ("a", "3")], [], rfl, by simp⟩)

end SettingsDocument

end RecordSynth
