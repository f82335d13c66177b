import RecordSynth.Proofs.Declaration.Order
import RecordSynth.Proofs.Declaration.TypeSet
/-!
# What additions append

Imports and super-interfaces only grow at their ends. A request for an import appends the names that
occur in the type, in the order in which they are met, but for those that are there already or are
known without. Decoration makes a few such requests, so what it appended once it never appends
again, however a declaration was decorated in between.
-/

namespace RecordSynth

/-! ## Requests for imports -/

namespace Declaration

/-- A request for a type is one for its name, and then one for each of its arguments. -/
theorem addImport_eq_foldl (d : Declaration) (t : TypeExpr) :
    d.addImport t = t.arguments.foldl addImport
      (if t.Foreign d.name.scope then { d with imports := d.imports.insert t.element } else d) := by
  obtain ⟨n, args⟩ := t
  rw [foldl_addImport, ← TypeExpr.importsFromAll_eq_flatMap, addImport, TypeExpr.importsFrom]
  by_cases foreign : TypeExpr.Foreign d.name.scope ⟨n, args⟩
  · rw [if_pos foreign, if_pos (TypeExpr.foreign_iff.1 foreign)]
    rfl
  · rw [if_neg foreign, if_neg (mt TypeExpr.foreign_iff.2 foreign)]

/-- A request for a type appends, in the order in which they are met, the element types of all types
in it that lie in a package other than the implicit one and that of the declaration: each once, and
only if its name is not imported yet. Nothing else is changed. The types in a type are met one by
one: first the type itself, whether it is imported or not, then those in each of its arguments. -/
theorem addImport_appends (d : Declaration) (t : TypeExpr) :
    d.addImport t = { d with imports := ⟨d.imports.types ++
      ((((t.occurrences.filter fun u => u.Foreign d.name.scope).map (·.name.element)).eraseDups.filter
        fun n => n.text ∉ d.imports.names).map TypeExpr.ofName)⟩ } ∧
    d.addImport t = t.arguments.foldl addImport
      (if t.Foreign d.name.scope then { d with imports := d.imports.insert t.element } else d) := by
  refine ⟨?_, addImport_eq_foldl d t⟩
  have appended := TypeSet.types_foldl_insert d.imports (t.foreignNames d.name.scope)
  rw [← TypeExpr.importsFrom_eq, TypeExpr.foreignNames] at appended
  rw [← appended]
  rfl

example :
    let inPackage := fun (p simple : Identifier) => TypeExpr.ofName { scope := [p], simple }
    let item := inPackage ⟨"b", by decide⟩ ⟨"Item", by decide⟩
    let pair := inPackage ⟨"c", by decide⟩ ⟨"Pair", by decide⟩
    let items := TypeExpr.ofName { item.name with rank := 1 }
    let row := inPackage ⟨"a", by decide⟩ ⟨"Row", by decide⟩
    let d := Declaration.ofType .classType row
    (d.addImport ((row.apply items).apply ((pair.apply item).apply row))).imports.names =
      ["b.Item", "c.Pair"] := by decide

end Declaration

/-! ## Decoration, once and again -/

namespace Declaration

/-- Decoration puts one super-interface and imports at the end, unless they are there, and imports
nothing from the package of the declaration. Nothing else is changed. -/
theorem decorated_appends (s : DomainSettings) (columns : List Column) (d : Declaration) :
    d.decorated s columns =
      { d with
        superInterfaces := ⟨d.superInterfaces.types ++
          if s.serializable = true ∧ "Serializable" ∉ d.superInterfaces.names then
            [serializableType.unqualified]
          else []⟩
        imports := ⟨d.imports.types ++ (Record.decorationTypes s columns).filter fun t =>
          t.name.text ∉ d.imports.names ∧ t.name.scope ≠ d.name.scope⟩ } := by
  have distinct : (((Record.decorationTypes s columns).filter fun t =>
      t.name.scope ≠ d.name.scope).map (·.name)).Nodup :=
    (Record.nodup_decorationTypes s columns).sublist (List.filter_sublist.map _)
  have imports := TypeSet.types_foldl_insert_of_nodup distinct d.imports
  have parents := TypeSet.types_insert d.superInterfaces serializableType.unqualified
  have marker : serializableType.unqualified.name.text = "Serializable" := by decide
  rw [List.filter_filter] at imports
  rw [marker, ← ite_not] at parents
  rw [decorated_eq_foldl, Record.importsFrom_decorationTypes]
  congr 1
  · cases s.serializable with
    | false => simp
    | true =>
      simp only [if_true, true_and]
      exact congrArg TypeSet.mk parents
  · simp only [Bool.decide_and]
    exact congrArg TypeSet.mk imports

/-- Nothing that the settings ask for is missing. -/
def HasDecoration (s : DomainSettings) (columns : List Column) (d : Declaration) : Prop :=
  (s.serializable = true → "Serializable" ∈ d.superInterfaces.names) ∧
    ∀ t ∈ Record.decorationTypes s columns,
      t.name.scope = d.name.scope ∨ t.name.text ∈ d.imports.names

section

variable {s : DomainSettings} {columns : List Column} {d : Declaration} {q : String}

theorem mem_parents_decorated : q ∈ (d.decorated s columns).superInterfaces.names ↔
    q ∈ d.superInterfaces.names ∨ s.serializable = true ∧ q = "Serializable" := by
  have marker : serializableType.unqualified.name.text = "Serializable" := by decide
  rw [decorated_eq_foldl]
  cases s.serializable with
  | false => simp
  | true => simp [TypeSet.mem_names_insert, marker]

theorem mem_imports_decorated : q ∈ (d.decorated s columns).imports.names ↔
    q ∈ d.imports.names ∨
      ∃ t ∈ Record.decorationTypes s columns, t.name.scope ≠ d.name.scope ∧ t.name.text = q := by
  rw [decorated_eq_foldl, Record.importsFrom_decorationTypes, TypeSet.mem_names_foldl_insert]
  simp only [List.mem_filter, decide_eq_true_eq, and_assoc]

theorem hasDecoration_decorated (s : DomainSettings) (columns : List Column) (d : Declaration) :
    (d.decorated s columns).HasDecoration s columns := by
  constructor
  · intro marked
    exact mem_parents_decorated.2 (.inr ⟨marked, rfl⟩)
  · intro t member
    rw [(d.name_decorated s columns).1, mem_imports_decorated]
    by_cases own : t.name.scope = d.name.scope
    · exact .inl own
    · exact .inr (.inr ⟨t, member, own, rfl⟩)

/-- What is there stays there when the declaration is decorated again, for whatever settings. -/
theorem HasDecoration.decorated (has : d.HasDecoration s columns) (s' : DomainSettings)
    (columns' : List Column) : (d.decorated s' columns').HasDecoration s columns := by
  obtain ⟨parents, imports⟩ := has
  constructor
  · intro marked
    exact mem_parents_decorated.2 (.inl (parents marked))
  · intro t member
    rw [(d.name_decorated s' columns').1, mem_imports_decorated]
    exact (imports t member).imp_right .inl

/-- Decoration changes nothing where nothing is missing. -/
theorem HasDecoration.decorated_eq_self (has : d.HasDecoration s columns) :
    d.decorated s columns = d := by
  obtain ⟨parents, imports⟩ := has
  have noParent : ¬ (s.serializable = true ∧ "Serializable" ∉ d.superInterfaces.names) :=
    fun missing => missing.2 (parents missing.1)
  have noImport : ((Record.decorationTypes s columns).filter fun t =>
      t.name.text ∉ d.imports.names ∧ t.name.scope ≠ d.name.scope) = [] := by
    rw [List.filter_eq_nil_iff]
    intro t member missing
    obtain ⟨absent, other⟩ := of_decide_eq_true missing
    exact (imports t member).elim other absent
  rw [decorated_appends, if_neg noParent, noImport, List.append_nil, List.append_nil]
  cases d
  rfl

end

section

variable {m : Type → Type} [Monad m] [MonadJournal m]

/-- Decorates a declaration for several pairs of columns and settings, one after another. -/
def decorateAll (requests : List (List Column × DomainSettings)) (d : Declaration) :
    m Declaration :=
  requests.foldlM (fun d request => d.decorate request.1 request.2) d

variable [LawfulMonad m]

/-- Where nothing is missing, decorating once more only reports. -/
theorem HasDecoration.gives_decorate {s : DomainSettings} {columns : List Column}
    {d : Declaration} (has : d.HasDecoration s columns) :
    Gives (d.decorate columns s : m Declaration) d := by
  have given := Declaration.gives_decorate (m := m) d columns s
  rwa [has.decorated_eq_self] at given

/-- After decoration for several pairs, nothing that one of them asks for is missing. -/
theorem gives_decorateAll (requests : List (List Column × DomainSettings)) (d : Declaration) :
    ∃ e, Gives (decorateAll requests d : m Declaration) e ∧
      ∀ request ∈ requests, e.HasDecoration request.2 request.1 := by
  induction requests using List.reverseRecOn with
  | nil => exact ⟨d, .pure d, nofun⟩
  | append_singleton requests request ih =>
    obtain ⟨e, given, has⟩ := ih
    refine ⟨e.decorated request.2 request.1, ?_, ?_⟩
    · rw [decorateAll, List.foldlM_append]
      refine .bind given ?_
      rw [List.foldlM_cons]
      exact .bind (Declaration.gives_decorate e request.1 request.2) (.pure _)
    · intro other member
      rcases List.mem_append.1 member with before | last
      · exact (has other before).decorated _ _
      · rw [List.mem_singleton.1 last]
        exact hasDecoration_decorated _ _ e

/-- Decoration puts at most `Serializable` behind the super-interfaces and at most the types of its
annotations, in this order, behind the imports: each only if its name is not there, and as an import
only outside of its own package. All else stays as it is, and to decorate the declaration in the
same way again changes nothing; nor does it after any other decorations, if it was among them. -/
theorem decorate_absorbed (d : Declaration) (requests : List (List Column × DomainSettings)) :
    (∀ columns s, ∃ e, Gives (d.decorate columns s : m Declaration) e ∧
      Gives (e.decorate columns s : m Declaration) e ∧
      e = { d with
        superInterfaces := ⟨d.superInterfaces.types ++
          if s.serializable = true ∧ "Serializable" ∉ d.superInterfaces.names then
            [serializableType.unqualified]
          else []⟩
        imports := ⟨d.imports.types ++
          ((if s.serializable then [serializableType] else []) ++
            if s.dateSerialize = true ∧ ∃ c ∈ columns, c.meaning.isTemporal = true then
              (s.json.annotationName?.map TypeExpr.ofName).toList ++ [dateTimeFormatType]
            else []).filter fun t =>
              t.name.text ∉ d.imports.names ∧ t.name.scope ≠ d.name.scope⟩ }) ∧
    ∃ e, Gives (decorateAll requests d : m Declaration) e ∧
      ∀ request ∈ requests, Gives (e.decorate request.1 request.2 : m Declaration) e := by
  constructor
  · intro columns s
    have dates : (s.dateSerialize = true ∧ ∃ c ∈ columns, c.meaning.isTemporal = true) ↔
        s.importsDates columns = true := by
      rw [DomainSettings.importsDates, Bool.and_eq_true, List.any_eq_true]
    have has := d.hasDecoration_decorated s columns
    have shape := d.decorated_appends s columns
    rw [Record.decorationTypes] at shape
    simp only [dates]
    exact ⟨d.decorated s columns, d.gives_decorate columns s, has.gives_decorate, shape⟩
  · obtain ⟨e, given, has⟩ := d.gives_decorateAll (m := m) requests
    exact ⟨e, given, fun request member => (has request member).gives_decorate⟩

end

/-- A class next to the interface that marks it, decorated in three ways one after another. -/
theorem decorate_absorbed_neighbour :
    let row := TypeExpr.ofName { serializableType.name with simple := ⟨"Row", by decide⟩ }
    let date := TypeExpr.ofName { scope := [], simple := ⟨"LocalDate", by decide⟩ }
    let columns : List Column := [{ name := "born", property := "born", type := date }]
    let marked : DomainSettings := { serializable := true }
    let dated : DomainSettings := { dateSerialize := true, json := .jackson }
    let e : Declaration := decorateAll (m := Id)
      [(columns, marked), (columns, dated), ([], { marked with json := .fastjson })]
      (ofType .classType row)
    e.superInterfaces.names = ["Serializable"] ∧
      e.imports.names = ["com.fasterxml.jackson.annotation.JsonFormat",
        "org.springframework.format.annotation.DateTimeFormat"] ∧
      e.decorate (m := Id) columns marked = e ∧ e.decorate (m := Id) columns dated = e := by
  intro row date columns marked dated e
  obtain ⟨made, ⟨journal, given⟩, settled⟩ := (decorate_absorbed (m := Id) (ofType .classType row)
    [(columns, marked), (columns, dated), ([], { marked with json := .fastjson })]).2
  obtain rfl : e = made := given
  obtain ⟨_, first⟩ := settled (columns, marked) (by simp)
  obtain ⟨_, second⟩ := settled (columns, dated) (by simp)
  exact ⟨by decide, by decide, first, second⟩

end Declaration

end RecordSynth
