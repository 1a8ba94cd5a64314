import Roster.Documents.Credential
import Roster.Documents.Terms
import Roster.Machine
import Roster.Text.Fold
import Roster.Text.Integer
import Roster.Text.Percent
import Roster.Text.Split

/-!
# `Roster.Documents.Options`: options of a connection string

Options follow the question mark of a connection string, with ampersands
between them. Each is a name, in letters of either case, and a value,
percent-encoded. A table says which names there are and what value each
of them has; any other name is refused, and so is any other value.

No option may come twice, but for the sets of tags. Two rules join
several options:

* encryption is either on or off. An option that only encryption can use
  turns it on, and only one option may say how strict it is;
* a preference for some servers comes with a mode, and the mode must be
  one that does not insist on the primary server.
-/

set_option autoImplicit false

namespace Roster.Documents

/-- The value of an option. -/
inductive Setting where
  | text (value : String)
  | flag (value : Bool)
  | number (value : Int)
  | named (values : List (String × String))
deriving DecidableEq, Repr

/-- The kinds of value. -/
inductive SettingKind where
  /-- Any text. -/
  | text
  /-- A text that is not empty. -/
  | filled
  | flag
  /-- A number without a sign, between two bounds. -/
  | natural (least greatest : Nat)
  /-- How stale a server may be, in seconds, or -1 for no bound. -/
  | staleness
  /-- One of some names, in letters of either case. -/
  | choice (names : List String)
  /-- A set of tags. -/
  | tags
  /-- A number of servers, or the name of a set of them. -/
  | servers
  | mechanism
  /-- Values by name. -/
  | properties
deriving DecidableEq, Repr

namespace Setting

open Text (splitFirst? splitAll)

/-- The properties that have no value in writing. -/
def unwrittenProperties : List String :=
  ["ALLOWED_HOSTS", "OIDC_CALLBACK", "OIDC_HUMAN_CALLBACK"]

/-- A property with its value. -/
def property? (cs : List Char) : Option (String × String) :=
  (splitFirst? ':' cs).bind fun (name, value) =>
    if unwrittenProperties.contains (String.ofList name) then none
    else some (String.ofList name, String.ofList value)

/-- Whether a text is a set of tags, each a name with a value. -/
def isTagSet (cs : List Char) : Bool :=
  cs.isEmpty || (splitAll ',' cs).all fun tag => tag.contains ':'

/-- How many servers have to answer, or which. -/
def servers? (value : String) : Option Setting :=
  match Text.integer? (-Int.pow 2 31) (Int.pow 2 31 - 1) value.toList with
  | none => some (.text value)
  | some n => if n < 0 then none else some (.number n)

/-- A value of some kind, as it is written. -/
def ofText? (value : String) : SettingKind → Option Setting
  | .text => some (.text value)
  | .filled => if value.isEmpty then none else some (.text value)
  | .flag =>
    if value = "true" then some (.flag true)
    else if value = "false" then some (.flag false)
    else none
  | .natural least greatest =>
    ((Text.natural? greatest value.toList).filter (least ≤ ·)).map fun n => .number n
  | .staleness => (Text.integer? (-1) (Int.pow 2 63 - 1) value.toList).map .number
  | .choice names =>
    let name := Text.fold value.toList
    if names.contains name then some (.text name) else none
  | .tags => if isTagSet value.toList then some (.text value) else none
  | .servers => servers? value
  | .mechanism => (Mechanism.ofName? value).map fun _ => .text value
  | .properties => ((splitAll ',' value.toList).mapM property?).map .named

end Setting

/-- Options by name, in their order. -/
abbrev Options :=
  List (String × Setting)

namespace Options

open Text (splitFirst? splitAll)

/-- A span of time, in milliseconds. -/
def duration : SettingKind :=
  .natural 0 Text.greatest64

/-- A number of connections, servers or tries. -/
def count : SettingKind :=
  .natural 0 Text.greatest32

/-- The options that there are, with the kinds of their values. -/
def kinds : List (String × SettingKind) :=
  [("appname", .text),
   ("authmechanism", .mechanism),
   ("authmechanismproperties", .properties),
   ("authsource", .filled),
   ("connecttimeoutms", duration),
   ("directconnection", .flag),
   ("enableoverloadretargeting", .flag),
   ("heartbeatfrequencyms", .natural 500 Text.greatest64),
   ("journal", .flag),
   ("loadbalanced", .flag),
   ("localthresholdms", duration),
   ("maxadaptiveretries", count),
   ("maxconnecting", count),
   ("maxidletimems", duration),
   ("maxpoolsize", count),
   ("maxstalenessseconds", .staleness),
   ("minpoolsize", count),
   ("readconcernlevel", .text),
   ("readpreference",
    .choice ["primary", "primarypreferred", "secondary", "secondarypreferred", "nearest"]),
   ("readpreferencetags", .tags),
   ("replicaset", .text),
   ("retryreads", .flag),
   ("retrywrites", .flag),
   ("servermonitoringmode", .choice ["stream", "poll", "auto"]),
   ("serverselectiontimeoutms", duration),
   ("srvmaxhosts", count),
   ("srvservicename", .text),
   ("ssl", .flag),
   ("tls", .flag),
   ("tlsallowinvalidcertificates", .flag),
   ("tlscafile", .text),
   ("tlscertificatekeyfile", .text),
   ("tlsinsecure", .flag),
   ("uuidrepresentation", .choice ["csharplegacy", "javalegacy", "pythonlegacy"]),
   ("w", .servers),
   ("waitqueuetimeoutms", duration),
   ("wtimeoutms", duration)]

/-- An option. -/
def option? (cs : List Char) : Option (String × Setting) :=
  (splitFirst? '=' cs).bind fun (written, value) =>
    let name := Text.fold written
    (kinds.lookup name).bind fun kind =>
      (Setting.ofText? (Text.Percent.decode (String.ofList value)) kind).map fun setting =>
        (name, setting)

/-- The value of an option. -/
def get? (o : Options) (name : String) : Option Setting :=
  o.lookup name

/-- Whether an option is given. -/
def has (o : Options) (name : String) : Bool :=
  (o.get? name).isSome

/-- Whether an option is given as true. -/
def isOn (o : Options) (name : String) : Bool :=
  o.get? name = some (.flag true)

/-- The text of an option. -/
def text? (o : Options) (name : String) : Option String :=
  match o.get? name with
  | some (.text value) => some value
  | _ => none

/-- The number of an option. -/
def number? (o : Options) (name : String) : Option Int :=
  match o.get? name with
  | some (.number value) => some value
  | _ => none

/-- Whether all of some answers are the same. -/
def agree (answers : List Bool) : Bool :=
  answers.all (· = true) || answers.all (· = false)

/-- What an option says about encryption. Some say outright whether
there is any; others are of use only where there is. -/
def encryption? (name : String) (setting : Setting) : Option Bool :=
  if name = "tls" || name = "ssl" then some (setting = .flag true)
  else if name.startsWith "tls" then some true
  else none

/-- Whether a connection is encrypted. -/
def isEncrypted (o : Options) : Bool :=
  o.any fun p => encryption? p.1 p.2 = some true

/-- Whether the files that encryption needs hold what they must. A file
of authorities may hold none; a file of the client's own must hold a
certificate and its key. -/
def findsCertificates (o : Options) (machine : Machine) : Bool :=
  (o.text? "tlscafile").all (fun path => (machine.file path).isSome)
    && (o.text? "tlscertificatekeyfile").all fun path => machine.file path = some .identity

/-- Whether the options agree about encryption. -/
def agreesOnEncryption (o : Options) : Bool :=
  agree (o.filterMap fun p => encryption? p.1 p.2)
    && !(o.has "tlsinsecure" && o.has "tlsallowinvalidcertificates")

/-- The bound on staleness, if there is one. -/
def staleness? (o : Options) : Option Int :=
  (o.number? "maxstalenessseconds").filter (0 ≤ ·)

/-- Whether a preference comes with a mode that does not insist on the
primary server. -/
def hasModeForPreference (o : Options) : Bool :=
  !(o.has "readpreferencetags" || o.staleness?.isSome)
    || (o.text? "readpreference").any (· ≠ "primary")

/-- The options that a text gives, if it gives any that can be. -/
def ofText? (cs : List Char) : Option Options :=
  match (splitAll '&' cs).mapM option? with
  | none => none
  | some options =>
    let single := (options.map (·.1)).filter (· ≠ "readpreferencetags")
    if single.Nodup && agreesOnEncryption options && hasModeForPreference options then
      some options
    else none

/-- How often servers are asked for their state, in milliseconds, if it
is not said. -/
def defaultHeartbeat : Int :=
  10000

/-- The least bound on staleness that can be told, in milliseconds. A
server's state is known no better than it is asked for and written
down. -/
def leastStaleness (o : Options) : Int :=
  max 90000 ((o.number? "heartbeatfrequencyms").getD defaultHeartbeat + 10000)

/-- Whether the options can be used with some number of hosts. -/
def suit (o : Options) (hosts : Nat) : Bool :=
  (!o.isOn "directconnection" || hosts ≤ 1)
    && (!o.isOn "loadbalanced"
      || (hosts ≤ 1 && !o.has "replicaset" && !o.isOn "directconnection"))
    && !(o.number? "w" = some 0 && o.isOn "journal")
    && o.number? "maxpoolsize" ≠ some 0
    && o.number? "maxconnecting" ≠ some 0
    && o.staleness?.all fun seconds => o.leastStaleness ≤ seconds * 1000

/-- The options with one more, unless it is given already. -/
def withDefault (o : Options) (name : String) (setting? : Option Setting) : Options :=
  match setting? with
  | some setting => if o.has name then o else o ++ [(name, setting)]
  | none => o

/-- The options with encryption, unless they say something about it. -/
def encrypted (o : Options) : Options :=
  if o.any fun p => (encryption? p.1 p.2).isSome then o else o ++ [("tls", .flag true)]

/-- The terms on which a client works. -/
def terms (o : Options) : Terms where
  writers := match o.get? "w" with
    | some (.number n) => some (.count n.toNat)
    | some (.text name) => some (.named name)
    | _ => none
  level := o.text? "readconcernlevel"
  retriesReads := o.get? "retryreads" ≠ some (.flag false)

end Options

end Roster.Documents
