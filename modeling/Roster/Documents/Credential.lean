import Roster.Text.Fold

/-!
# `Roster.Documents.Credential`: who uses a document server

A user proves who it is by one of several mechanisms. Each of them asks
for something: a name, a password, or that the user is known outside the
server's own databases. Without a mechanism the server and the client
agree on one, and then the user's name is enough.

A mechanism can be told more by properties, each with a name and a
value. Without a mechanism nobody reads them.
-/

set_option autoImplicit false

namespace Roster.Documents

/-- A way for a user to prove who it is. -/
inductive Mechanism where
  /-- A challenge that is answered with the password's digest. -/
  | challenge
  /-- A salted challenge that both sides answer. -/
  | scram
  /-- The password as it is. -/
  | plain
  /-- A certificate. -/
  | certificate
  /-- A token that someone else gives out. -/
  | token
deriving DecidableEq, Repr

/-- The mechanisms by their names. -/
def Mechanism.names : List (String × Mechanism) :=
  [("MONGODB-CR", .challenge), ("SCRAM-SHA-1", .scram), ("SCRAM-SHA-256", .scram),
   ("PLAIN", .plain), ("MONGODB-X509", .certificate), ("MONGODB-OIDC", .token)]

/-- The mechanism that a name stands for. -/
def Mechanism.ofName? (name : String) : Option Mechanism :=
  Mechanism.names.lookup name

/-- What is known of a user. -/
structure Credential where
  user : Option String
  password : Option String
  /-- The database that knows the user, if it is said. -/
  source : Option String
  /-- What else a mechanism is told, by name. -/
  properties : List (String × String)
deriving DecidableEq, Repr

namespace Credential

/-- The source of the users that no database of the server knows. -/
def external : String :=
  "$external"

/-- Whether the user may be known outside the server's databases. -/
def isExternal (c : Credential) : Bool :=
  c.source.all (· = external)

/-- A property of a name. Of several the last one counts. -/
def property? (c : Credential) (name : String) : Option String :=
  c.properties.reverse.lookup name

/-- The surroundings that give out tokens, and whether they do so for a
resource that has to be named. -/
def surroundings : List (String × Bool) :=
  [("azure", true), ("gcp", true), ("k8s", false)]

/-- Whether the properties tell where a token comes from: each is known,
so are the surroundings, and a resource is named for exactly those that
give out a token for one. -/
def namesToken (c : Credential) : Bool :=
  let hasResource := (c.property? "TOKEN_RESOURCE").isSome
  c.properties.all (fun p => p.1 = "ENVIRONMENT" || p.1 = "TOKEN_RESOURCE")
    && match c.property? "ENVIRONMENT" with
      | some name => surroundings.lookup name = some hasResource
      | none => !hasResource

/-- The ways in which a host's name is made canonical, in lower case. -/
def hostNameModes : List String :=
  ["true", "false", "none", "forward", "forwardandreverse"]

/-- Whether the properties say in a known way how a host's name is made
canonical, if they say it. -/
def namesHosts (c : Credential) : Bool :=
  (c.property? "CANONICALIZE_HOST_NAME").all fun mode =>
    hostNameModes.contains (Text.fold mode.toList)

/-- Whether a mechanism finds in a credential what it needs of its
own. -/
def has (c : Credential) : Mechanism → Bool
  | .challenge => true
  | .scram => c.user.isSome
  | .plain => c.user.isSome && c.password.isSome
  | .certificate => c.password.isNone && c.isExternal
  | .token => c.password.isNone && c.isExternal && c.namesToken

/-- Whether a mechanism can use a credential. -/
def suits (c : Credential) (mechanism : Mechanism) : Bool :=
  c.namesHosts && c.has mechanism

end Credential

end Roster.Documents
