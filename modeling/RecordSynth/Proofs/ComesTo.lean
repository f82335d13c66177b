import RecordSynth.Journal
/-!
# What computations come to

Readings of texts and runs of commands go on from step to step until one of them fails, and each step
may change a world. Such a computation comes to a result and leaves a world, and what it comes to
follows from its steps: `ComesTo.bind` for one that goes on, `ComesTo.bind_error` for one that stops.
-/

namespace RecordSynth

/-- Monads whose computations lead from a world to an answer and a world. -/
class Worldly (m : Type → Type) [Monad m] (σ : outParam Type) where
  /-- From the first world the computation gives the answer and leaves the second world. -/
  Leads {α : Type} (x : m α) (world : σ) (a : α) (world' : σ) : Prop
  leads_pure {α : Type} (a : α) (world : σ) : Leads (pure a) world a world
  leads_bind {α β : Type} {x : m α} {f : α → m β} {a : α} {b : β} {u v w : σ}
    (first : Leads x u a v) (rest : Leads (f a) v b w) : Leads (x >>= f) u b w
  leads_unique {α : Type} {x : m α} {a b : α} {u v w : σ} (one : Leads x u a v)
    (other : Leads x u b w) : a = b ∧ v = w

instance {σ : Type} : Worldly (StateM σ) σ where
  Leads x world a world' := x.run world = (a, world')
  leads_pure _ _ := rfl
  leads_bind first rest := by
    rw [StateT.run_bind, first]
    exact rest
  leads_unique one other := Prod.mk.inj (one.symm.trans other)

/-- A journal is no part of the world: the computation leads there from any journal. -/
instance {m : Type → Type} {σ : Type} [Monad m] [Worldly m σ] : Worldly (StateT Journal m) σ where
  Leads x world a world' :=
    ∀ journal, ∃ journal', Worldly.Leads (x.run journal) world (a, journal') world'
  leads_pure a world journal := ⟨journal, Worldly.leads_pure (a, journal) world⟩
  leads_bind first rest journal := by
    obtain ⟨between, first⟩ := first journal
    obtain ⟨journal', rest⟩ := rest between
    rw [StateT.run_bind]
    exact ⟨journal', Worldly.leads_bind first rest⟩
  leads_unique one other := by
    obtain ⟨_, one⟩ := one []
    obtain ⟨_, other⟩ := other []
    obtain ⟨same, worlds⟩ := Worldly.leads_unique one other
    exact ⟨congrArg Prod.fst same, worlds⟩

variable {m : Type → Type} [Monad m] {σ ε α β : Type} [Worldly m σ] {u v w : σ}

/-- The computation leads from one world to another and comes to this result, be it an error. -/
def ComesTo (x : ExceptT ε m α) (world : σ) (result : Except ε α) (world' : σ) : Prop :=
  Worldly.Leads x.run world result world'

namespace ComesTo

theorem unique {x : ExceptT ε m α} {first second : Except ε α} (one : ComesTo x u first v)
    (other : ComesTo x u second w) : first = second ∧ v = w :=
  Worldly.leads_unique one other

theorem given (result : Except ε α) (u : σ) : ComesTo (ExceptT.mk (pure result) : ExceptT ε m α)
    u result u := Worldly.leads_pure result u

theorem done (a : α) (u : σ) : ComesTo (pure a : ExceptT ε m α) u (.ok a) u := .given (.ok a) u

theorem bind {x : ExceptT ε m α} {f : α → ExceptT ε m β} {a : α} {result : Except ε β}
    (first : ComesTo x u (.ok a) v) (rest : ComesTo (f a) v result w) :
    ComesTo (x >>= f) u result w := Worldly.leads_bind first rest

/-- Nothing behind an error is run. -/
theorem bind_error {x : ExceptT ε m α} {e : ε} (stopped : ComesTo x u (.error e) v)
    (f : α → ExceptT ε m β) : ComesTo (x >>= f) u (.error e) v :=
  Worldly.leads_bind stopped (Worldly.leads_pure (Except.error e) v)

/-- What cannot fail goes on with its answer. -/
theorem of_leads [LawfulMonad m] {x : m α} {a : α} (leads : Worldly.Leads x u a v) :
    ComesTo (liftM x : ExceptT ε m α) u (.ok a) v := by
  have lifted : (liftM x : ExceptT ε m α).run = x >>= fun a => pure (.ok a) :=
    map_eq_pure_bind Except.ok x
  rw [ComesTo, lifted]
  exact Worldly.leads_bind leads (Worldly.leads_pure (Except.ok a) v)

end ComesTo

end RecordSynth
