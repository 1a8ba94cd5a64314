import Roster.Text.Blank
import Roster.Text.Quoted
import Roster.Text.Utf8

/-!
# `Roster.Config`: where the records live

The one setting is a URL, whose scheme picks the kind of store. It is
taken from an environment variable, which holds any bytes. Bytes that
are no text count as no setting, and so does a blank text; any other
text is taken as it stands, with the white space around it.
-/

set_option autoImplicit false

namespace Roster

/-- The settings of a seeding run. -/
structure Config where
  databaseUrl : String
deriving DecidableEq, Repr

namespace Config

/-- The URL in use when none is set. -/
def defaultUrl : String :=
  "mongodb://localhost:27017/test"

/-- The settings in use when none are given. -/
def default : Config :=
  ⟨defaultUrl⟩

instance : Inhabited Config :=
  ⟨default⟩

/-- The settings for a URL that may be missing. A URL of which trimming
leaves nothing counts as missing; any other is not trimmed. -/
def ofUrl? : Option String → Config
  | none => default
  | some url => if (Text.trimmed url.toList).isEmpty then default else ⟨url⟩

/-- The settings for the bytes of an environment variable that may be
unset. -/
def ofEnvironment (value : Option (List UInt8)) : Config :=
  ofUrl? (value.bind Text.ofUtf8?)

/-- The settings as they are shown in messages. -/
def shown (c : Config) : String :=
  "SeedConfig \x7b database_url: " ++ Text.Quoted.text c.databaseUrl ++ " \x7d"

end Config

end Roster
