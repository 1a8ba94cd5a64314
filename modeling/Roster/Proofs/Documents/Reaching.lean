import Mathlib.Data.List.Forall2
import Roster.Proofs.Documents.Naming

/-!
# `Roster.Proofs.Documents.Reaching`: which server a URL leads to

A connection string is plain if it names a database at some servers and
asks for nothing else: it has no user, and no options beyond the one that
lets servers that were looked up speak in clear (`Plain`). Its hosts are
written with the number of their service, or without it if it is the
usual one (`HostWritten`).

Opening a plain connection string gives a client for the employees in that
database, on the usual terms. It reaches the server if all servers that
it asks for are this one (`Client.connect_of_plain`).
-/

set_option autoImplicit false

namespace Roster.Documents

open Text (splitFirst? splitFirst?_eq_some_iff splitFirst?_eq_none_iff splitAll
  splitAll_intercalate)

/-! ### Hosts -/

/-- The name of a machine: not empty, no path, and without the characters
that have a meaning among hosts. -/
structure IsHostName (name : List Char) : Prop where
  ne_nil : name ≠ []
  plain : ∀ c ∈ name, c ∉ [',', ':', '[']
  not_path : ¬".sock".toList <:+ name

instance (name : List Char) : Decidable (IsHostName name) :=
  decidable_of_iff
    (name ≠ [] ∧ name.all (fun c => c ∉ [',', ':', '[']) = true ∧ ¬".sock".toList <:+ name)
    ⟨fun ⟨hne, hplain, hpath⟩ => ⟨hne, by simpa using hplain, hpath⟩,
      fun h => ⟨h.ne_nil, by simpa using h.plain, h.not_path⟩⟩

/-- The name of a machine in lower case. -/
def lowerName (name : List Char) : String :=
  String.ofList (name.map Char.toLower)

/-- How a host is written, and how its server knows itself. -/
inductive HostWritten : List Char → String → Prop where
  | bare {name : List Char} (h : IsHostName name) : HostWritten name (lowerName name ++ ":27017")
  | numbered {name : List Char} (h : IsHostName name) {n : Nat} (hpos : 0 < n) (hn : n < 65536) :
      HostWritten (name ++ ':' :: (toString n).toList) (lowerName name ++ ":" ++ toString n)

/-- The digits of a number are digits, and there are some. -/
theorem toString_digits (n : Nat) :
    (toString n).toList ≠ [] ∧ ∀ c ∈ (toString n).toList, c.isDigit = true := by
  rw [Nat.toString_eq_ofList_toDigits, String.toList_ofList]
  exact ⟨Nat.toDigits_ne_nil, fun c hc => Nat.isDigit_of_mem_toDigits (by omega) (by omega) hc⟩

/-- The digits of a number are read as the number. -/
theorem digits?_toString (n : Nat) : Text.digits? (toString n).toList = some n := by
  obtain ⟨hne, hdigits⟩ := toString_digits n
  have hread : ¬((toString n).toList.isEmpty || !(toString n).toList.all Char.isDigit) = true := by
    rw [List.isEmpty_eq_false_iff.mpr hne, List.all_eq_true.mpr hdigits]
    exact Bool.false_ne_true
  rw [Text.digits?, if_neg hread, Nat.toString_eq_ofList_toDigits, String.toList_ofList]
  have hvalue := Nat.ofDigitChars_ten_toDigits (n := n)
  simp only [Nat.ofDigitChars_eq_foldl, Nat.mul_comm 10] at hvalue
  exact congrArg some hvalue

/-- The digits of a number in range are read as the number. -/
theorem natural?_toString {greatest n : Nat} (h : n ≤ greatest) :
    Text.natural? greatest (toString n).toList = some n := by
  obtain ⟨hne, hdigits⟩ := toString_digits n
  have hread := digits?_toString n
  unfold Text.natural?
  split
  · -- A digit is not a plus.
    rename_i heq
    exact absurd (hdigits '+' (heq ▸ List.mem_cons_self)) (by decide)
  · show (Text.digits? (toString n).toList).filter _ = some n
    rw [hread]
    exact if_pos (decide_eq_true h)

namespace IsHostName

variable {name : List Char}

theorem not_colon (h : IsHostName name) : ':' ∉ name :=
  fun hmem => h.plain ':' hmem (by simp)

/-- A machine is read by its name and its service. -/
theorem machine?_eq (h : IsHostName name) (service : Option (List Char)) :
    Host.machine? name service =
      match service with
      | none => some (.machine (lowerName name) none)
      | some digits => ((Text.natural? Text.greatest16 digits).filter (0 < ·)).map fun n =>
          .machine (lowerName name) (some n) := by
  have hempty : name.isEmpty = false := List.isEmpty_eq_false_iff.mpr h.ne_nil
  simp only [Host.machine?, hempty]
  rfl

end IsHostName

/-- What does not begin with a bracket is cut at its first colon. -/
theorem Host.ofText?_of_name {name : List Char} (h : IsHostName name) {tail : List Char}
    (hpath : ".sock".toList.isSuffixOf (name ++ tail) = false) :
    Host.ofText? (name ++ tail) =
      match splitFirst? ':' (name ++ tail) with
      | some (name, digits) => Host.machine? name (some digits)
      | none => Host.machine? (name ++ tail) none := by
  unfold Host.ofText?
  rw [hpath, if_neg Bool.false_ne_true]
  split
  · rename_i heq
    cases hname : name with
    | nil => exact absurd hname h.ne_nil
    | cons c rest =>
      rw [hname] at heq
      obtain ⟨rfl, _⟩ := List.cons.inj heq
      exact absurd (by simp) (h.plain '[' (hname ▸ List.mem_cons_self))
  · rfl

/-- A host is read as the server that it is written for. -/
theorem HostWritten.ofText? {cs : List Char} {endpoint : String} (h : HostWritten cs endpoint) :
    ∃ host, Host.ofText? cs = some host ∧ host.endpoint = endpoint := by
  cases h with
  | bare h =>
    have hpath : ".sock".toList.isSuffixOf (cs ++ []) = false := by
      rw [List.append_nil, Bool.eq_false_iff, Ne, List.isSuffixOf_iff_suffix]
      exact h.not_path
    have hread := Host.ofText?_of_name h hpath
    rw [List.append_nil, splitFirst?_eq_none_iff.mpr h.not_colon] at hread
    refine ⟨.machine (lowerName cs) none, hread.trans (h.machine?_eq none), ?_⟩
    simp only [Host.endpoint, Option.getD_none, String.append_assoc]
    rfl
  | @numbered name h n hpos hn =>
    have hpath : ".sock".toList.isSuffixOf (name ++ ':' :: (toString n).toList) = false := by
      rw [Bool.eq_false_iff, Ne, List.isSuffixOf_iff_suffix]
      rintro ⟨front, hfront⟩
      -- The last character would be a `k`, and it is a digit.
      obtain ⟨hne, hdigits⟩ := toString_digits n
      have hlast := congrArg List.getLast? hfront
      simp only [List.getLast?_append, List.getLast?_cons, List.getLast?_eq_some_getLast hne,
        Option.getD_some, Option.some_or] at hlast
      have hmem := List.getLast_mem hne
      rw [← Option.some.inj hlast] at hmem
      exact absurd (hdigits 'k' hmem) (by decide)
    have hread := Host.ofText?_of_name h hpath
    rw [splitFirst?_eq_some_iff.mpr ⟨rfl, h.not_colon⟩] at hread
    have hservice : Text.natural? Text.greatest16 (toString n).toList = some n :=
      natural?_toString (Nat.le_of_lt_succ hn)
    refine ⟨.machine (lowerName name) (some n), hread.trans ((h.machine?_eq _).trans ?_), rfl⟩
    simp only [hservice, Option.filter, decide_eq_true hpos, if_true, Option.map_some]

/-- Hosts with commas between them are read one by one. -/
theorem mapM_ofText?_of_written {hosts : List (List Char)} {endpoints : List String}
    (h : List.Forall₂ HostWritten hosts endpoints) :
    ∃ read, hosts.mapM Host.ofText? = some read ∧ read.map Host.endpoint = endpoints := by
  induction h with
  | nil => exact ⟨[], rfl, rfl⟩
  | cons hfirst _ ih =>
    obtain ⟨host, hhost, hendpoint⟩ := hfirst.ofText?
    obtain ⟨read, hread, hendpoints⟩ := ih
    refine ⟨host :: read, ?_, by rw [List.map_cons, hendpoint, hendpoints]⟩
    rw [List.mapM_cons, hhost, hread]
    rfl

/-- A host that is written has no comma. -/
theorem HostWritten.not_comma {cs : List Char} {endpoint : String} (h : HostWritten cs endpoint) :
    ',' ∉ cs := by
  have hname {name : List Char} (h : IsHostName name) : ',' ∉ name :=
    fun hmem => h.plain ',' hmem (by simp)
  cases h with
  | bare h => exact hname h
  | @numbered name h n _ _ =>
    rw [List.mem_append, List.mem_cons]
    rintro (hmem | hmem | hmem)
    · exact hname h hmem
    · exact absurd hmem (by decide)
    · exact absurd ((toString_digits n).2 ',' hmem) (by decide)

/-! ### Plain connection strings -/

/-- A connection string asks for a database at some servers, and for nothing
else. The servers are named, or the network knows them by a name. -/
inductive Plain (machine : Machine) (url database : String) (endpoints : List String) : Prop where
  | named (p : Parts) (hosts : List (List Char)) (url_eq : url.toList = scheme false ++ p.text)
      (user : p.user = none) (options : p.options = none) (names : p.Names database)
      (ne_nil : hosts ≠ []) (joined : p.hosts = [','].intercalate hosts)
      (written : List.Forall₂ HostWritten hosts endpoints)
  | found (p : Parts) (found : Finding) (url_eq : url.toList = scheme true ++ p.text)
      (user : p.user = none) (options : p.options = some "tls=false".toList)
      (names : p.Names database) (host : IsHostName p.hosts)
      (lookup : machine.lookup ⟨lowerName p.hosts, "mongodb", none⟩ = some found)
      (single : found.replicaSet = none) (balanced : found.loadBalanced = none)
      (servers : endpoints = found.servers.map fun s => s.1 ++ ":" ++ toString s.2)

/-- The characters that no database has in its name. -/
def IsDatabaseName (database : String) : Prop :=
  ∀ c ∈ database.toList, c ∉ ['/', '\\', ' ', '"', '$']

instance (database : String) : Decidable (IsDatabaseName database) :=
  List.decidableBAll _ database.toList

/-- The database that a path names is read from it. -/
theorem Parts.database?_of_names {p : Parts} {database : String} (hnames : p.Names database)
    (hname : IsDatabaseName database) :
    ∃ named, Address.database? (p.path.getD []) = some named ∧
      named.getD defaultDatabase = database := by
  unfold Parts.Names at hnames
  unfold Address.database?
  cases hpath : p.path.getD [] with
  | nil =>
    rw [hpath] at hnames
    exact ⟨none, rfl, hnames.symm⟩
  | cons c cs =>
    rw [hpath] at hnames
    have hlegal : database.toList.any Address.isIllegal = false :=
      List.any_eq_false.mpr fun c hc h => hname c hc (List.contains_iff_mem.mp h)
    refine ⟨some database, ?_, rfl⟩
    simp only [decode?_eq_some_iff.mpr hnames, hlegal, List.isEmpty_cons, if_false,
      Bool.false_eq_true]

/-- What a plain connection string with named servers says. -/
theorem Parts.address?_of_named {p : Parts} {database : String} {endpoints : List String}
    {hosts : List (List Char)} (user : p.user = none) (options : p.options = none)
    (names : p.Names database) (hname : IsDatabaseName database) (ne_nil : hosts ≠ [])
    (joined : p.hosts = [','].intercalate hosts)
    (written : List.Forall₂ HostWritten hosts endpoints) :
    ∃ read named, p.address? false = some ⟨read, named, false, false, []⟩ ∧
      read.map Host.endpoint = endpoints ∧ named.getD defaultDatabase = database := by
  obtain ⟨read, hread, hendpoints⟩ := mapM_ofText?_of_written written
  obtain ⟨named, hnamed, hdatabase⟩ := database?_of_names names hname
  have hsplit : splitAll ',' p.hosts = hosts := by
    rw [joined]
    have hcommas := written.imp fun _ _ h => And.intro h.not_comma h
    exact splitAll_intercalate ne_nil ((List.forall₂_and_left _ _).mp hcommas).1
  refine ⟨read, named, ?_, hendpoints, hdatabase⟩
  simp only [address?, options?, options, user, hsplit, hread, hnamed, Option.getD_none,
    List.isEmpty_nil, if_true, Option.isSome_none, Option.bind_eq_bind, Option.bind_some]
  rfl

/-- What a plain connection string says whose servers have to be looked
up. -/
theorem Parts.address?_of_found {p : Parts} {database : String} (user : p.user = none)
    (options : p.options = some "tls=false".toList) (names : p.Names database)
    (hname : IsDatabaseName database) (host : IsHostName p.hosts) :
    ∃ named, p.address? true = some
        ⟨[.machine (lowerName p.hosts) none], named, true, false, [("tls", .flag false)]⟩ ∧
      named.getD defaultDatabase = database := by
  obtain ⟨named, hnamed, hdatabase⟩ := database?_of_names names hname
  have hsplit : splitAll ',' p.hosts = [p.hosts] :=
    Text.splitAll_eq_self fun hmem => host.plain ',' hmem (by simp)
  have hpath : ".sock".toList.isSuffixOf (p.hosts ++ []) = false := by
    rw [List.append_nil, Bool.eq_false_iff, Ne, List.isSuffixOf_iff_suffix]
    exact host.not_path
  have hread : Host.ofText? p.hosts = some (.machine (lowerName p.hosts) none) := by
    have hread := Host.ofText?_of_name host hpath
    rw [List.append_nil, splitFirst?_eq_none_iff.mpr host.not_colon] at hread
    exact hread.trans (host.machine?_eq none)
  have htls : Options.ofText? "tls=false".toList = some [("tls", .flag false)] := by
    decide +kernel
  refine ⟨named, ?_, hdatabase⟩
  simp only [address?, options?, options, user, hsplit, hnamed, Option.getD_none,
    Option.getD_some, htls, Option.isSome_none, Option.bind_eq_bind, Option.bind_some,
    List.mapM_cons, List.mapM_nil, hread, Option.pure_def]
  rfl

/-- An address without demands is served by the server of its hosts. -/
theorem Address.isServedBy_eq {a : Address} (h : a.authenticates = false)
    (ho : a.options = [] ∨ a.options = [("tls", .flag false)]) (s : Server) :
    a.isServedBy s = (a.hosts.map Host.endpoint).all (· = s.address) := by
  have hfree : a.options.isEncrypted = false ∧ a.options.has "replicaset" = false ∧
      a.options.isOn "loadbalanced" = false := by
    rcases ho with ho | ho <;> rw [ho] <;> decide
  simp only [isServedBy, h, hfree, List.all_map, Function.comp_def, Bool.not_false, Bool.and_true]

/-- The client that a plain connection string opens. -/
theorem Client.connect_of_plain {machine : Machine} {url database : String}
    {endpoints : List String} (h : Plain machine url database endpoints)
    (hname : IsDatabaseName database) (s : Server) :
    Client.connect machine url s =
      .ok ⟨⟨database, employeesCollection⟩, endpoints.all (· = s.address), .usual⟩ := by
  -- Neither set of options asks for anything, so the address decides.
  have hopened {written address : Address} (hread : Address.ofUrl? url = some written)
      (hlocate : written.locate machine = .ok address)
      (hdatabase : address.database.getD defaultDatabase = database)
      (hendpoints : address.hosts.map Host.endpoint = endpoints)
      (hauthenticates : address.authenticates = false)
      (hoptions : address.options = [] ∨ address.options = [("tls", .flag false)]) :
      Client.connect machine url s =
        .ok ⟨⟨database, employeesCollection⟩, endpoints.all (· = s.address), .usual⟩ := by
    have hserved := Address.isServedBy_eq hauthenticates hoptions s
    rw [hendpoints] at hserved
    unfold Client.connect
    rcases hoptions with hoptions | hoptions <;>
      simp only [hread, hlocate, hdatabase, hserved, hoptions] <;> rfl
  cases h with
  | named p hosts url_eq user options names ne_nil joined written =>
    obtain ⟨read, named, haddress, hendpoints, hdatabase⟩ :=
      Parts.address?_of_named user options names hname ne_nil joined written
    rw [← p.ofRest?_text, ← ofUrl?_of_scheme url_eq] at haddress
    exact hopened haddress rfl hdatabase hendpoints rfl (.inl rfl)
  | found p found url_eq user options names host lookup single balanced servers =>
    obtain ⟨named, haddress, hdatabase⟩ := Parts.address?_of_found user options names hname host
    rw [← p.ofRest?_text, ← ofUrl?_of_scheme url_eq] at haddress
    have hlocate : Address.locate
        ⟨[.machine (lowerName p.hosts) none], named, true, false, [("tls", .flag false)]⟩ machine =
          .ok ⟨found.servers.map fun server => .machine server.1 (some server.2), named, true,
            false, [("tls", .flag false)]⟩ := by
      have hquery : machine.lookup (Address.query
          ⟨[.machine (lowerName p.hosts) none], named, true, false, [("tls", .flag false)]⟩
          (lowerName p.hosts)) = some found := lookup
      simp only [Address.locate, hquery, Address.located, single, balanced]
      rfl
    refine hopened haddress hlocate hdatabase ?_ rfl (.inr rfl)
    rw [servers, List.map_map]
    rfl

end Roster.Documents
