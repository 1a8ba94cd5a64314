/-!
# `Roster.Documents.Terms`: on which terms a client works

A client can ask that a write is acknowledged by a number of servers, or
by a named group of them, and that a listing shows what is known with some
certainty. It may try a listing again that failed in passing. What it does
not ask for is left to the server.
-/

set_option autoImplicit false

namespace Roster.Documents

/-- Who has to acknowledge a write. -/
inductive Writers where
  | count (n : Nat)
  | named (name : String)
deriving DecidableEq, Repr

/-- The terms on which a client works. -/
structure Terms where
  /-- Who has to acknowledge a write, if that is asked for. -/
  writers : Option Writers
  /-- How certain a listing has to be, if that is asked for. -/
  level : Option String
  /-- Whether a listing that failed in passing is tried again. -/
  retriesReads : Bool
deriving DecidableEq, Repr

namespace Terms

/-- The terms of a client that asks for nothing. -/
def usual : Terms :=
  ⟨none, none, true⟩

/-- Whether anyone has to acknowledge a write. -/
def acknowledges (t : Terms) : Bool :=
  t.writers ≠ some (.count 0)

end Terms

end Roster.Documents
