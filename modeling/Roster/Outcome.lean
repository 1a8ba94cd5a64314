import Roster.Log.Event

/-!
# `Roster.Outcome`: what a piece of work comes to

Work on some state has a result, tells events as it goes, and leaves
the state changed, whether it succeeds or fails.
-/

set_option autoImplicit false

namespace Roster

/-- The outcome of work on states `σ`: its result, what was told in
order, and the state that it leaves. -/
structure Outcome (σ ε α : Type) where
  result : Except ε α
  events : List Event
  state : σ

namespace Outcome

variable {σ τ ε ε' α β : Type}

/-- The outcome with its failure seen as another. -/
def mapError (f : ε → ε') (o : Outcome σ ε α) : Outcome σ ε' α :=
  ⟨o.result.mapError f, o.events, o.state⟩

/-- The outcome after something was told. -/
def after (events : List Event) (o : Outcome σ ε α) : Outcome σ ε α :=
  { o with events := events ++ o.events }

/-- Work that goes on with the result of the work before it, unless
that failed. -/
def andThen (first : Outcome σ ε α) (next : α → σ → Outcome σ ε β) : Outcome σ ε β :=
  match first.result with
  | .error e => ⟨.error e, first.events, first.state⟩
  | .ok a => (next a first.state).after first.events

/-- Work that succeeds and only tells. -/
def tell (events : List Event) (a : α) (s : σ) : Outcome σ ε α :=
  ⟨.ok a, events, s⟩

end Outcome

end Roster
