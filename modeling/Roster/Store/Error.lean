import Roster.Employee.Shown

/-!
# `Roster.Store.Error`: why a store refuses

A store can be out of service, or its URL can name no kind of store
that there is. A server behind a store adds causes of its own. Each
cause has a message. Some messages pass on the words of a client
library; those words are not fixed, and the message is known only up to
where they begin.
-/

set_option autoImplicit false

namespace Roster

/-- Why a document store refuses. -/
inductive DocumentError where
  /-- The connection string is not one. -/
  | badUrl
  /-- No server answers. -/
  | unreachable
  /-- The server answered a command with an error code. -/
  | command (code : Int)
  /-- The server stored the documents before `index` and refused that
  one. -/
  | write (index : Nat) (code : Int)
  /-- A stored document is no employee. -/
  | undecodable
  /-- A file of certificates cannot be read. -/
  | unreadableCertificates
  /-- A write is not sent that no server would acknowledge. -/
  | unacknowledged
deriving DecidableEq, Repr

/-- Why a table store refuses. -/
inductive TableError where
  /-- The connection URL is not one. -/
  | badUrl
  /-- No server answers. -/
  | unreachable
  /-- Encryption is asked for and the server has none. -/
  | noEncryption
  /-- The server answered a statement with an error text. -/
  | statement (text : String)
  /-- A column of a stored row is null. -/
  | nullColumn (column : String)
  /-- A statement would need more arguments than one can have. -/
  | tooManyArguments (count : Nat)
deriving DecidableEq, Repr

/-- Why the table could not be brought up to date. -/
inductive MigrationError where
  /-- A migration was begun and not finished. -/
  | dirty (version : Int)
  /-- A migration was applied that is not known here. -/
  | unknown (version : Int)
  /-- A migration was applied with other contents. -/
  | modified (version : Int)
  /-- The database refused a migration. -/
  | failed (version : Int) (text : String)
  /-- The database refused a statement that goes with the migrations. -/
  | interrupted (text : String)
deriving DecidableEq, Repr

/-- Why a store refuses. -/
inductive StoreError where
  | unavailable
  | unsupportedUrl (scheme : String)
  | documents (cause : DocumentError)
  | table (cause : TableError)
  | migration (cause : MigrationError)
deriving DecidableEq, Repr

/-- A message with the messages of its causes, the outermost first. It
is open if words follow that are not fixed. -/
structure Account where
  messages : List String
  isOpen : Bool
deriving DecidableEq, Repr

/-- A message whose words are all known. -/
def Account.closed (messages : List String) : Account :=
  ⟨messages, false⟩

/-- The account of a cause, as the cause of something else. -/
def Account.under (label : String) (a : Account) : Account :=
  match a.messages with
  | [] => ⟨[label], a.isOpen⟩
  | first :: rest => ⟨(label ++ first) :: first :: rest, a.isOpen⟩

/-- The outermost message, if all its words are known. -/
def Account.message? (a : Account) : Option String :=
  if a.isOpen then none else a.messages.head?

/-- The account of a server's answer to a statement. -/
def statementAccount (text : String) : Account :=
  (Account.closed [text]).under "error returned from database: "

/-- What a table store says. -/
def TableError.account : TableError → Account
  | .badUrl => ⟨["error with configuration"], true⟩
  | .unreachable => ⟨["error communicating with database"], true⟩
  | .noEncryption =>
    (Account.closed ["server does not support TLS"]).under
      "error occurred while attempting to establish a TLS connection: "
  | .statement text => statementAccount text
  | .nullColumn column =>
    (Account.closed ["unexpected null; try decoding as an `Option`"]).under
      ("error occurred while decoding column \"" ++ column ++ "\": ")
  | .tooManyArguments count =>
    .closed ["encountered unexpected or invalid data: " ++
      "PgConnection::run(): too many arguments for query: " ++ toString count]

/-- What is said of a migration. -/
def MigrationError.account : MigrationError → Account
  | .dirty version =>
    .closed ["migration " ++ toString version ++
      " is partially applied; fix and remove row from `_sqlx_migrations` table"]
  | .unknown version =>
    .closed ["migration " ++ toString version ++
      " was previously applied but is missing in the resolved migrations"]
  | .modified version =>
    .closed ["migration " ++ toString version ++
      " was previously applied but has been modified"]
  | .failed version text =>
    (statementAccount text).under
      ("while executing migration " ++ toString version ++ ": ")
  | .interrupted text => (statementAccount text).under "while executing migrations: "

/-- What a store says. -/
def StoreError.account : StoreError → Account
  | .unavailable => .closed ["Store unavailable"]
  | .unsupportedUrl scheme => .closed ["Unsupported database URL: " ++ scheme]
  | .documents _ => ⟨["MongoDB error"], true⟩
  | .table cause => cause.account.under "Database error: "
  | .migration cause => cause.account.under "Migration error: "

/-- What a store says, if all the words are known. -/
def StoreError.message? (e : StoreError) : Option String :=
  e.account.message?

/-- How a refusal is spelled for those who look into the library, if all
the words are known. The servers' causes have words of their own. -/
def StoreError.shown? : StoreError → Option String
  | .unavailable => some "Unavailable"
  | .unsupportedUrl scheme => some ("UnsupportedUrl(" ++ Text.Quoted.text scheme ++ ")")
  | .documents _ | .table _ | .migration _ => none

end Roster
