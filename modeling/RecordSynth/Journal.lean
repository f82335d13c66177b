/-!
# The journal of a run

Messages that report what a run decides, in the order in which it decides. The steps that report are
written for any monad that takes messages; a run that needs no reports drops them, and one that does
keeps them as a list.
-/

namespace RecordSynth

/-- How much a message matters. -/
inductive Level where
  | warn
  | info
  | debug
deriving DecidableEq, Repr

/-- One message. -/
structure Message where
  level : Level
  text : String
deriving DecidableEq, Repr

/-- The messages of a run, first one first. -/
abbrev Journal := List Message

/-- Monads that take messages. -/
class MonadJournal (m : Type → Type) where
  note : Level → String → m Unit

export MonadJournal (note)

/-- A run without a reader drops its messages. -/
instance : MonadJournal Id := ⟨fun _ _ => ()⟩

instance {m : Type → Type} [Monad m] : MonadJournal (StateT Journal m) :=
  ⟨fun level text => modify (· ++ [⟨level, text⟩])⟩

instance {m : Type → Type} {ε : Type} [Monad m] [MonadJournal m] : MonadJournal (ExceptT ε m) :=
  ⟨fun level text => ExceptT.lift (note level text)⟩

end RecordSynth
