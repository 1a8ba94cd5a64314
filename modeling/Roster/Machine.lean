/-!
# `Roster.Machine`: what a process finds around it

A process runs under the name of a user, on a machine with files, and in
a network that knows services by name. All three are given from outside:
nothing is known of them but what they answer.
-/

set_option autoImplicit false

namespace Roster

/-- What is looked up in the network: the servers of a service under some
name, at most so many of them unless there is no bound. -/
structure Query where
  name : String
  service : String
  bound : Option Nat
deriving DecidableEq, Repr

/-- What the network knows of a service: its servers, each a host with the
number of the service there, and how to work with them, where it says
so. A service without servers is not known. -/
structure Finding where
  servers : List (String × Nat)
  servers_ne_nil : servers ≠ []
  replicaSet : Option String
  loadBalanced : Option Bool
deriving DecidableEq, Repr

/-- What a file holds as far as encryption goes. -/
inductive Content where
  /-- Neither a certificate of one's own nor a key. -/
  | plain
  /-- A certificate of one's own with its key. -/
  | identity
deriving DecidableEq, Repr

/-- What a process finds around it. -/
structure Machine where
  /-- What the network knows of a service, if it knows it. -/
  lookup : Query → Option Finding
  /-- What a file holds, if it can be read. -/
  file : String → Option Content
  /-- The user under whose name the process runs. -/
  user : String

namespace Machine

/-- A machine without files, in a network that knows nothing. -/
def bare : Machine where
  lookup _ := none
  file _ := none
  user := ""

instance : Inhabited Machine :=
  ⟨bare⟩

end Machine

end Roster
