import Roster.Documents.Address
import Roster.Proofs.Text.Percent
import Roster.Proofs.Text.Split

/-!
# `Roster.Proofs.Documents.Naming`: the database that a URL names

A connection string has parts: a user before an at sign, hosts, a path
after a slash, and options after a question mark. All but the hosts may
be missing. `Parts` says how they are told apart when such a character
stands in several of them; every text can be taken apart so
(`Parts.exists_text_eq`).

The path names a database, percent-encoded, and an empty path or none
leaves the choice to the client (`Parts.Names`). A client that was opened
works on the collection of employees in the database that its connection
string names, and it names no other (`Client.connect_place`).
-/

set_option autoImplicit false

namespace Roster.Documents

open Text (splitFirst? splitLast? splitFirst?_eq_some_iff splitFirst?_eq_none_iff
  splitLast?_eq_some_iff splitLast?_eq_none_iff)

/-! ### Parts of a text -/

/-- A part that begins with a character, if it is there. -/
def begun (c : Char) (part : Option (List Char)) : List Char :=
  part.elim [] (c :: ·)

/-- A part that ends with a character, if it is there. -/
def ended (c : Char) (part : Option (List Char)) : List Char :=
  part.elim [] (· ++ [c])

theorem ended_none_append (c : Char) (rest : List Char) : ended c none ++ rest = rest := rfl

/-- A part that begins with the first of a character is cut off there. -/
theorem splitFirst?_append_begun {c : Char} {front : List Char} (h : c ∉ front)
    (part : Option (List Char)) :
    (splitFirst? c (front ++ begun c part)).getD (front ++ begun c part, []) =
      (front, part.getD []) := by
  cases part with
  | none =>
    rw [show front ++ begun c none = front from List.append_nil front,
      splitFirst?_eq_none_iff.mpr h]
    rfl
  | some text =>
    have hcut : splitFirst? c (front ++ begun c (some text)) = some (front, text) :=
      splitFirst?_eq_some_iff.mpr ⟨rfl, h⟩
    rw [hcut]
    rfl

/-- A part that ends with the last of a character is cut off there. -/
theorem splitLast?_ended_append {c : Char} {rest : List Char} (h : c ∉ rest)
    (part : Option (List Char)) :
    splitLast? c (ended c part ++ rest) = part.map (·, rest) := by
  cases part with
  | none => exact splitLast?_eq_none_iff.mpr h
  | some text => exact splitLast?_eq_some_iff.mpr ⟨List.append_assoc text [c] rest, h⟩

/-- Every text has a part that begins with the first of a character, or
none. -/
theorem exists_append_begun (c : Char) (cs : List Char) :
    ∃ front part, cs = front ++ begun c part ∧ c ∉ front := by
  cases hcut : splitFirst? c cs with
  | none => exact ⟨cs, none, (List.append_nil cs).symm, splitFirst?_eq_none_iff.mp hcut⟩
  | some p =>
    obtain ⟨hcs, hfront⟩ := splitFirst?_eq_some_iff.mp hcut
    exact ⟨p.1, some p.2, hcs, hfront⟩

/-- Every text has a part that ends with the last of a character, or
none. -/
theorem exists_ended_append (c : Char) (cs : List Char) :
    ∃ part rest, cs = ended c part ++ rest ∧ c ∉ rest := by
  cases hcut : splitLast? c cs with
  | none => exact ⟨none, cs, rfl, splitLast?_eq_none_iff.mp hcut⟩
  | some p =>
    obtain ⟨hcs, hrest⟩ := splitLast?_eq_some_iff.mp hcut
    exact ⟨some p.1, p.2, hcs.trans (List.append_assoc p.1 [c] p.2).symm, hrest⟩

/-! ### Parts of a connection string -/

/-- What a connection string consists of after its scheme. The options
begin at the first question mark, the user ends at the last at sign
before them, and the path begins at the first slash after that. -/
structure Parts where
  user : Option (List Char)
  hosts : List Char
  path : Option (List Char)
  options : Option (List Char)
  hosts_slash : '/' ∉ hosts
  place_at : '@' ∉ hosts ++ begun '/' path
  front_mark : '?' ∉ ended '@' user ++ (hosts ++ begun '/' path)

namespace Parts

variable {p : Parts} {database : String}

/-- The parts put together. -/
def text (p : Parts) : List Char :=
  (ended '@' p.user ++ (p.hosts ++ begun '/' p.path)) ++ begun '?' p.options

/-- Whether a database is the one that the path names, percent-encoded. A
path that is empty or missing names the default one. -/
def Names (p : Parts) (database : String) : Prop :=
  match p.path.getD [] with
  | [] => database = defaultDatabase
  | c :: cs => Text.Percent.Spells (Text.utf8 (String.ofList (c :: cs))) (Text.utf8 database)

/-- Every text can be taken apart. -/
theorem exists_text_eq (cs : List Char) : ∃ p : Parts, p.text = cs := by
  obtain ⟨front, options, rfl, hfront⟩ := exists_append_begun '?' cs
  obtain ⟨user, place, rfl, hplace⟩ := exists_ended_append '@' front
  obtain ⟨hosts, path, rfl, hhosts⟩ := exists_append_begun '/' place
  exact ⟨⟨user, hosts, path, options, hhosts, hplace, hfront⟩, rfl⟩

/-- What the options say. -/
def options? (p : Parts) : Option Options :=
  if (p.options.getD []).isEmpty then some [] else Options.ofText? (p.options.getD [])

/-- What the parts say, each read by itself. -/
def address? (p : Parts) (lookup : Bool) : Option Address := do
  let options ← p.options?
  let user ← Address.user? (p.user.getD [])
  let hosts ← (Text.splitAll ',' p.hosts).mapM Host.ofText?
  let database ← Address.database? (p.path.getD [])
  let authenticates ← Address.authenticates? p.user.isSome user options
  if Address.fitsScheme lookup hosts options then
    some ⟨hosts, database, lookup, authenticates, options⟩
  else none

/-- The three cuts give back the parts. -/
theorem ofRest?_text (p : Parts) (lookup : Bool) :
    Address.ofRest? lookup p.text = p.address? lookup := by
  have hoptions := splitFirst?_append_begun p.front_mark p.options
  have huser := splitLast?_ended_append p.place_at p.user
  have hpath := splitFirst?_append_begun p.hosts_slash p.path
  unfold Address.ofRest? text address? options?
  rw [hoptions]
  simp only [huser]
  cases hsome : p.user <;> split <;>
    simp only [Option.map_none, Option.map_some, Option.isSome_none, Option.isSome_some,
      Option.getD_none, Option.getD_some, ended_none_append, hpath]

/-- The path of a connection string is read as the database, or the
string is refused. -/
theorem database?_of_ofRest? {lookup : Bool} {address : Address}
    (h : Address.ofRest? lookup p.text = some address) :
    Address.database? (p.path.getD []) = some address.database := by
  rw [ofRest?_text, address?] at h
  simp only [Option.bind_eq_bind, Option.bind_eq_some_iff] at h
  obtain ⟨options, _, user, _, hosts, _, database, hdatabase, authenticates, _, hfits⟩ := h
  split at hfits <;> cases hfits
  exact hdatabase

/-- A text is read as what its bytes spell. -/
theorem decode?_eq_some_iff {s database : String} :
    Text.Percent.decode? s = some database ↔
      Text.Percent.Spells (Text.utf8 s) (Text.utf8 database) := by
  rw [Text.Percent.decode?, Text.ofUtf8?_eq_some_iff, Text.Percent.spells_iff, eq_comm]

/-- The database that is read is the one that the path names. -/
theorem names_iff {named : Option String}
    (h : Address.database? (p.path.getD []) = some named) :
    p.Names database ↔ database = named.getD defaultDatabase := by
  unfold Names
  unfold Address.database? at h
  cases hpath : p.path.getD [] with
  | nil =>
    rw [hpath] at h
    cases h
    rfl
  | cons c cs =>
    rw [hpath] at h
    simp only [List.isEmpty_cons, Bool.false_eq_true, if_false] at h
    cases hdecode : Text.Percent.decode? (String.ofList (c :: cs)) with
    | none =>
      rw [hdecode] at h
      cases h
    | some name =>
      simp only [hdecode] at h
      split at h
      · cases h
      · cases h
        show Text.Percent.Spells _ _ ↔ database = name
        rw [← decode?_eq_some_iff, hdecode, Option.some.injEq, eq_comm]

end Parts

/-- The scheme of a connection string. Its servers are named, or have to be
looked up. -/
def scheme (lookup : Bool) : List Char :=
  if lookup then "mongodb+srv://".toList else "mongodb://".toList

/-- Whether a database is the one that a connection string names. -/
def DatabaseOf (url database : String) : Prop :=
  ∃ lookup, ∃ p : Parts, url.toList = scheme lookup ++ p.text ∧ p.Names database

/-- What stands after a scheme is read for that scheme. -/
theorem ofUrl?_of_scheme {url : String} {lookup : Bool} {rest : List Char}
    (h : url.toList = scheme lookup ++ rest) :
    Address.ofUrl? url = Address.ofRest? lookup rest := by
  unfold Address.ofUrl?
  rw [h]
  cases lookup with
  | false => rfl
  | true =>
    -- The two schemes differ before either of them ends.
    rfl

/-- Only what has one of the schemes is read. -/
theorem exists_scheme {url : String} {address : Address}
    (h : Address.ofUrl? url = some address) :
    ∃ lookup rest, url.toList = scheme lookup ++ rest := by
  unfold Address.ofUrl? at h
  simp only at h
  split at h
  · rename_i hscheme
    obtain ⟨rest, hrest⟩ := List.isPrefixOf_iff_prefix.mp hscheme
    exact ⟨false, rest, hrest.symm⟩
  · split at h
    · rename_i hscheme
      obtain ⟨rest, hrest⟩ := List.isPrefixOf_iff_prefix.mp hscheme
      exact ⟨true, rest, hrest.symm⟩
    · cases h

/-- A connection string names the database that is read from it, and no
other. -/
theorem databaseOf_iff {url database : String} {address : Address}
    (h : Address.ofUrl? url = some address) :
    DatabaseOf url database ↔ database = address.database.getD defaultDatabase := by
  constructor
  · -- The text is taken apart by reading just as `p` has it.
    rintro ⟨lookup, p, hurl, hnames⟩
    rw [ofUrl?_of_scheme hurl] at h
    exact (Parts.names_iff (Parts.database?_of_ofRest? h)).mp hnames
  · intro hdatabase
    obtain ⟨lookup, rest, hurl⟩ := exists_scheme h
    obtain ⟨p, rfl⟩ := Parts.exists_text_eq rest
    rw [ofUrl?_of_scheme hurl] at h
    exact ⟨lookup, p, hurl, (Parts.names_iff (Parts.database?_of_ofRest? h)).mpr hdatabase⟩

/-- Looking servers up changes nothing about the database. -/
theorem Address.database_of_locate {written address : Address} {machine : Machine}
    (h : written.locate machine = .ok address) : address.database = written.database := by
  unfold locate at h
  split at h
  · cases h
    rfl
  · split at h
    · simp only at h
      split at h
      · cases h
      · split at h <;> cases h
        rfl
    · cases h

/-- A client is opened for what a connection string says. -/
theorem Client.address_of_connect {machine : Machine} {url : String} {s : Server}
    {client : Client} (h : Client.connect machine url s = .ok client) :
    ∃ address, Address.ofUrl? url = some address ∧
      client.place = ⟨address.database.getD defaultDatabase, employeesCollection⟩ := by
  unfold Client.connect at h
  cases hwritten : Address.ofUrl? url with
  | none =>
    rw [hwritten] at h
    cases h
  | some written =>
    cases hlocate : written.locate machine with
    | error e =>
      simp only [hwritten, hlocate] at h
      cases h
    | ok address =>
      simp only [hwritten, hlocate] at h
      split at h
      · cases h
      · split at h <;> cases h
        exact ⟨written, rfl, by rw [Address.database_of_locate hlocate]⟩

/-- A client that was opened works on the collection of employees in the
one database that its connection string names. -/
theorem Client.connect_place {machine : Machine} {url : String} {s : Server} {client : Client}
    (h : Client.connect machine url s = .ok client) :
    client.place.collection = employeesCollection ∧
      ∀ database, DatabaseOf url database ↔ database = client.place.database := by
  obtain ⟨address, haddress, hplace⟩ := address_of_connect h
  rw [hplace]
  exact ⟨rfl, fun database => databaseOf_iff haddress⟩

end Roster.Documents
