import RecordSynth.Proofs.Pass.Hooks
/-!
# The hooks of the built-in plugins

Both built-in plugins only report besides computing, so each has hooks that are functions. A pass of
one domain plugin and one service plugin, in either order, gives the records of the one followed by
the artifacts of the other.
-/

namespace RecordSynth

/-! ## Decoration -/

section

variable {m : Type → Type} [Monad m] [MonadJournal m] [LawfulMonad m]

theorem Field.gives_decorate (f : Field) (c : Column) (s : DomainSettings) :
    Gives (f.decorate c s : m Field) (f.decorated s) := by
  unfold Field.decorate
  split
  · exact .pure _
  · exact .bind (.note _ _) (.pure _)

theorem Declaration.gives_stripGenerator (d : Declaration) :
    Gives (d.stripGenerator : m Declaration) (d.stripMarker generatorMarker) :=
  .bind (.note _ _) (.pure _)

theorem Declaration.gives_decorate (d : Declaration) (columns : List Column)
    (s : DomainSettings) :
    Gives (d.decorate columns s : m Declaration) (d.decorated s columns) := by
  unfold Declaration.decorate
  split
  · exact .bind (.note _ _) (.pure _)
  · exact .pure _

end

/-- A record class as the domain plugin leaves it. -/
def Declaration.finished (s : DomainSettings) (columns : List Column) (d : Declaration) :
    Declaration :=
  (d.stripMarker generatorMarker).decorated s columns

/-- The hooks of the domain plugin. -/
def Hooks.domain (s : DomainSettings) : Hooks where
  name := "domain"
  field := fun f _ _ _ _ => (f.decorated s, true)
  declaration := fun d table => (d.finished s table.columns, true)

theorem Plugin.domain_follows {m : Type → Type} [Monad m] [MonadJournal m] [LawfulMonad m]
    (s : DomainSettings) : (Plugin.domain s : Plugin m).Follows (Hooks.domain s) where
  name := rfl
  validate _ := .pure _
  fieldCreated f _ c _ _ := .bind (f.gives_decorate c s) (.pure _)
  declarationCreated d _ :=
    .bind d.gives_stripGenerator (.bind (Declaration.gives_decorate _ _ s) (.pure _))
  additionalArtifacts _ := .pure _

/-! ## Services -/

/-- The service artifacts of a table, without the messages about them: none unless there are a
project, a package and a base interface, and none if a name cannot be made. -/
def Service.built (table : Table) (s : ServiceSettings) : List Declaration :=
  match destination? s, s.basicService with
  | some package, some basic =>
    (artifactsIn package table basic s.basicServiceImpl).toOption.getD []
  | _, _ => []

section

variable {m : Type → Type} [Monad m] [MonadJournal m] [LawfulMonad m]

theorem Service.gives_artifacts (table : Table) (s : ServiceSettings) :
    Gives (Service.artifacts table s : m (List Declaration)) (Service.built table s) := by
  unfold Service.artifacts Service.built
  cases destination? s with
  | none => exact .bind (.note _ _) (.pure _)
  | some package =>
    cases s.basicService with
    | none => exact .pure _
    | some basic =>
      dsimp only
      cases artifactsIn package table basic s.basicServiceImpl with
      | ok ds =>
        split
        · exact .bind (.note _ _) (.pure _)
        · exact .pure _
      | error e =>
        split
        · exact .bind (.note _ _) (.bind (.note _ _) (.pure _))
        · exact .bind (.note _ _) (.pure _)

end

/-- The hooks of the service plugin. -/
def Hooks.service (s : ServiceSettings) : Hooks where
  name := "service"
  validate := fun warnings => (!s.disable, warnings)
  extras := fun table =>
    match s.targetProject with
    | none => []
    | some targetProject =>
      (Service.built table s).map fun declaration => { declaration, targetProject }

theorem Plugin.service_follows {m : Type → Type} [Monad m] [MonadJournal m] [LawfulMonad m]
    (s : ServiceSettings) : (Plugin.service s : Plugin m).Follows (Hooks.service s) where
  name := rfl
  validate warnings := by
    change Gives (do
      if s.disable then note .info "service plugin disabled"
      pure (!s.disable, warnings) : m (Bool × List String)) (!s.disable, warnings)
    split
    · exact .bind (.note _ _) (.pure _)
    · exact .pure _
  fieldCreated _ _ _ _ _ := .pure _
  declarationCreated _ _ := .pure _
  additionalArtifacts table := by
    simp only [Plugin.service, Hooks.service]
    cases s.targetProject with
    | none => exact .pure _
    | some project =>
      exact .bind (Service.gives_artifacts table s) (.bind (.note _ _) (.pure _))

end RecordSynth
