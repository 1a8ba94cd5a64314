import Roster.Proofs.Tables.Databases
import Roster.Proofs.Tables.Interruption
import Roster.Tables.Address

/-!
# `Roster.Proofs.Tables.Connecting`: what connecting comes to

A URL leads to a database of a server (`Server.Reached`). Connecting by it
ends in one of the ways of `Upgrade`, or is interrupted
(`connect_upgrades`). It works on that database and on no other.

Once connected, the record of the database holds the one finished
migration, and connecting to it again changes nothing that is stored
(`connectEach_of_upToDate`).
-/

set_option autoImplicit false

namespace Roster.Tables

namespace Server

/-- A URL leads to a database: it is one, the server takes connections where
it points and has the database that it means, and it does not ask for
encryption. -/
structure Reached (t : Server) (user url name : String) : Prop where
  listening : t.listening = true
  present : (t.database? name).isSome
  address : ∃ a, Address.ofUrl? url = some a ∧ a.endpoint = t.address ∧
    a.encryption ≠ .required ∧ a.databaseName user = name

variable {t : Server} {user url name : String}

/-- A URL that leads to a database is routed there. -/
theorem Reached.route_eq (h : t.Reached user url name) : t.route user url = .ok name := by
  obtain ⟨a, hurl, hendpoint, hencryption, hname⟩ := h.address
  simp [route, hurl, h.listening, hendpoint, hencryption, hname, h.present]

/-- A URL goes on leading to its database, whatever happens there. -/
theorem Reached.setDatabase (h : t.Reached user url name) (d : Database) :
    (t.setDatabase name d).Reached user url name where
  listening := h.listening
  present := by
    rw [database?_setDatabase]
    rfl
  address := h.address

end Server

/-- A URL that is routed to a database gets as far as the migration. -/
theorem connect_of_route {t : Server} {user url name : String}
    (h : t.route user url = .ok name) :
    connect user url t = ((migrate (t.database name)).1.map fun _ => name,
      t.setDatabase name (migrate (t.database name)).2) := by
  simp only [connect, h]
  rfl

/-- Connecting fails before anything is done, or gets as far as the migration
of a database. -/
theorem connect_eq (user url : String) (t : Server) :
    (∃ e, connect user url t = (.error e, t)) ∨
      ∃ name, connect user url t = ((migrate (t.database name)).1.map fun _ => name,
        t.setDatabase name (migrate (t.database name)).2) := by
  cases hroute : t.route user url with
  | error e => exact .inl ⟨e, by simp only [connect, hroute]⟩
  | ok name => exact .inr ⟨name, connect_of_route hroute⟩

/-- Connecting once with each of some URLs: the answers, and the server that
is left. -/
def connectEach (user : String) :
    List String → Server → List (Except StoreError String) × Server
  | [], t => ([], t)
  | url :: urls, t =>
    ((connect user url t).1 :: (connectEach user urls (connect user url t).2).1,
      (connectEach user urls (connect user url t).2).2)

/-- Once the record of a database is up to date and no fault waits for an
errand, connecting to it succeeds and changes nothing that is stored,
however often. -/
theorem connectEach_of_upToDate {t : Server} (user : String) {name : String}
    (hrecord : (t.database name).migrations = [⟨migrationVersion, true, true⟩])
    (hspared : ∀ errand ∈ usualErrands, (t.database name).Spared (.errand errand))
    {urls : List String} (hreached : ∀ url ∈ urls, t.Reached user url name) :
    (connectEach user urls t).1 = urls.map (fun _ => .ok name) ∧
      (t.database name).Heard ((connectEach user urls t).2.database name) := by
  induction urls generalizing t with
  | nil => exact ⟨rfl, .refl _⟩
  | cons url urls ih =>
    obtain ⟨hurl, hrest⟩ := List.forall_mem_cons.mp hreached
    obtain ⟨d, hheard, hmigrate⟩ := migrate_of_upToDate hrecord hspared
    have hconnect : connect user url t = (.ok name, t.setDatabase name d) := by
      rw [connect_of_route hurl.route_eq, hmigrate]
      rfl
    have hset := Server.database_setDatabase name t d
    obtain ⟨hanswers, hlast⟩ := ih (t := t.setDatabase name d)
      (by rw [hset, hheard.rests.migrations, hrecord])
      (fun errand hmem => by
        rw [hset]
        exact (Database.spared_congr hheard.faults _).mpr (hspared errand hmem))
      fun url' hmem => (hrest url' hmem).setDatabase d
    rw [hset] at hlast
    simp only [connectEach, hconnect]
    exact ⟨by rw [hanswers, List.map_cons], hheard.trans hlast⟩

/-- The statements that only go with the migrations are carried out: no fault
waits for one. -/
def Database.Obliges (s : Database) : Prop :=
  ∀ text, ¬s.Interrupts text

/-- Bringing an orderly database up to date ends in one of the ways, or it was
interrupted before anything stored had changed or after everything had
been stored. -/
theorem Migrated.upgrade_or_interrupted {d d' : Database} {answer : Except StoreError Unit}
    (horderly : d.Orderly) (h : Migrated d (answer, d')) :
    Upgrade d answer d'.table d'.migrations ∨
      ∃ text, answer = .error (.migration (.interrupted text)) ∧ d.Interrupts text ∧
        ((d'.table = d.table ∧ d'.migrations = d.migrations) ∨
          Upgrade d (.ok ()) d'.table d'.migrations) := by
  cases h with
  | refused told => exact .inl ((upgrade_iff horderly _ _ _).mpr told)
  | done told _ => exact .inl ((upgrade_iff horderly _ _ _).mpr told)
  | interrupted interrupts table migrations =>
    exact .inr ⟨_, rfl, interrupts, .inl ⟨table, migrations⟩⟩
  | overtaken interrupts told =>
    exact .inr ⟨_, rfl, interrupts, .inr ((upgrade_iff horderly _ _ _).mpr told)⟩

/-- Connecting to an orderly database ends in one of the ways, the one whose
conditions hold, while the statements that only go with the migrations are
carried out. If one is refused, connecting fails in its words, and
everything stored is as it was or as a success leaves it. The rows of a
table that is there stay in any case. After the other failures the record
is as it was; after a success it holds the finished migration alone, and
the table is there if the migration was not recorded before. From then on
connecting to the database succeeds and changes nothing that is stored. -/
theorem connect_upgrades {t : Server} {user url name : String}
    (horderly : (t.database name).Orderly) (hreached : t.Reached user url name) :
    ∃ answer d', connect user url t = (answer.map fun _ => name, t.setDatabase name d') ∧
      ((t.database name).Obliges → ∀ result table migrations,
        Upgrade (t.database name) result table migrations ↔
          answer = result ∧ d'.table = table ∧ d'.migrations = migrations) ∧
      (Upgrade (t.database name) answer d'.table d'.migrations ∨
        ∃ text, answer = .error (.migration (.interrupted text)) ∧
          (t.database name).Interrupts text ∧
          ((d'.table = (t.database name).table ∧
              d'.migrations = (t.database name).migrations) ∨
            Upgrade (t.database name) (.ok ()) d'.table d'.migrations)) ∧
      (∀ rows, (t.database name).table = some rows → d'.table = some rows) ∧
      (∀ e, answer = .error e → (∀ text, e ≠ .migration (.interrupted text)) →
        d'.migrations = (t.database name).migrations) ∧
      (answer = .ok () → d'.migrations = [⟨migrationVersion, true, true⟩] ∧
        ((∀ m ∈ (t.database name).migrations, m.version ≠ migrationVersion) →
          d'.table.isSome) ∧
        ∀ urls, (∀ url' ∈ urls, t.Reached user url' name) →
          (connectEach user urls (t.setDatabase name d')).1 = urls.map (fun _ => .ok name) ∧
          d'.Heard ((connectEach user urls (t.setDatabase name d')).2.database name)) := by
  have hcases := migrate_cases horderly.closed
  rw [connect_of_route hreached.route_eq]
  generalize t.database name = d at *
  cases hrun : migrate d with
  | mk answer d' =>
    rw [hrun] at hcases
    have hends := hcases.upgrade_or_interrupted horderly
    refine ⟨answer, d', rfl, ?unique, hends, ?rows, ?record, ?again⟩
    case unique =>
      -- An orderly database falls under just one of the ways.
      intro hobliges result table migrations
      rcases hends with hway | ⟨text, _, hinterrupts, _⟩
      · rw [upgrade_iff horderly, hway.outcome_eq horderly, Prod.mk.injEq, Prod.mk.injEq]
      · exact absurd hinterrupts (hobliges text)
    case rows =>
      intro rows hrows
      rcases hends with hway | ⟨_, _, _, ⟨htable, _⟩ | hway⟩
      · exact hway.table_of_some hrows
      · exact htable.trans hrows
      · exact hway.table_of_some hrows
    case record =>
      rintro e rfl hother
      rcases hends with hway | ⟨text, herror, _⟩
      · exact hway.migrations_of_error
      · exact absurd (Except.error.inj herror) (hother text)
    case again =>
      rintro rfl
      cases hcases with
      | done told spared =>
        -- Every errand was run, so no fault waits for one the next time.
        obtain ⟨hrecord, htable⟩ := ((upgrade_iff horderly _ _ _).mpr told).of_ok
        refine ⟨hrecord, htable, fun urls hurls => ?_⟩
        have hset := Server.database_setDatabase name t d'
        have hagain := connectEach_of_upToDate (t := t.setDatabase name d') user
          (by rw [hset, hrecord]) (by rwa [hset])
          fun url' hmem => (hurls url' hmem).setDatabase d'
        rwa [hset] at hagain

/-- A database in which a lot went wrong: the migration in hand was applied
with other contents, one migration is unknown, and two more were not
finished. -/
def neglected : Database :=
  { Database.empty true with
    table := some [⟨1, some "Ada", none⟩]
    nextId := 2
    migrations := [⟨migrationVersion, true, false⟩, ⟨9, false, true⟩, ⟨4, true, true⟩,
      ⟨7, false, true⟩] }

/-- A server with three databases: a new one, a neglected one, and one that
refuses to begin a transaction. -/
def office : Server where
  address := "localhost:5432"
  listening := true
  databases := [("shop", .empty true), ("attic", neglected),
    ("vault", { Database.empty false with faults := [⟨.begin, "out of memory"⟩] })]

/-- A new database is brought up to date, and connecting to it again is fine,
be it by another URL. In the neglected one the smallest unfinished version
is told. -/
theorem connect_neglected :
    (office.database "shop").Orderly ∧ (office.database "attic").Orderly ∧
    office.Reached "ada" "postgres://localhost/shop" "shop" ∧
    office.Reached "ada" "postgres://shop@localhost" "shop" ∧
    office.Reached "ada" "postgres://localhost/attic" "attic" ∧
    (connectEach "ada" ["postgres://localhost/shop", "postgres://shop@localhost"] office).1 =
      [.ok "shop", .ok "shop"] ∧
    (connect "ada" "postgres://localhost/attic" office).1 = .error (.migration (.dirty 7)) ∧
    ((connect "ada" "postgres://localhost/attic" office).2.database "attic").table =
      some [⟨1, some "Ada", none⟩] := by
  have horderly (d : Database) (hclosed : d.saved = none) (hlists : d.listsByVersion = true)
      (hdistinct : (d.migrations.map Applied.version).Nodup) : d.Orderly :=
    ⟨hclosed, hdistinct, Database.pairwise_listed hlists⟩
  have hshop := horderly (office.database "shop") rfl rfl (by decide)
  have hattic := horderly (office.database "attic") rfl rfl (by decide)
  have hshopUrl : office.Reached "ada" "postgres://localhost/shop" "shop" :=
    ⟨rfl, rfl, ⟨"localhost", 5432, none, some "shop", .optional⟩, rfl, rfl, by decide, rfl⟩
  have huserUrl : office.Reached "ada" "postgres://shop@localhost" "shop" :=
    ⟨rfl, rfl, ⟨"localhost", 5432, some "shop", none, .optional⟩, rfl, rfl, by decide, rfl⟩
  have hatticUrl : office.Reached "ada" "postgres://localhost/attic" "attic" :=
    ⟨rfl, rfl, ⟨"localhost", 5432, none, some "attic", .optional⟩, rfl, rfl, by decide, rfl⟩
  have hleast : IsLeast neglected.unfinished 7 := by
    refine ⟨⟨⟨7, false, true⟩, by decide, rfl, rfl⟩, ?_⟩
    rintro _ ⟨m, hm, hunfinished, rfl⟩
    simp only [neglected, List.mem_cons, List.not_mem_nil, or_false] at hm
    rcases hm with rfl | rfl | rfl | rfl <;> simp_all
  obtain ⟨answer, d', hrun, hways, -, hrows, -⟩ := connect_upgrades hattic hatticUrl
  obtain ⟨rfl, -, -⟩ := (hways (fun _ ⟨_, hmem, _⟩ => nomatch hmem) _ _ _).mp (.dirty hleast)
  obtain ⟨answer', d'', hrun', hways', -, -, -, hdone⟩ := connect_upgrades hshop hshopUrl
  obtain ⟨rfl, -, -⟩ := (hways' (fun _ ⟨_, hmem, _⟩ => nomatch hmem) _ _ _).mp (.applied rfl rfl)
  refine ⟨hshop, hattic, hshopUrl, huserUrl, hatticUrl, ?_, by rw [hrun]; rfl, ?_⟩
  · obtain ⟨-, -, hagain⟩ := hdone rfl
    have hsecond := hagain ["postgres://shop@localhost"] (by simpa using huserUrl)
    rw [connectEach, hrun', hsecond.1]
    rfl
  · rw [hrun, Server.database_setDatabase]
    exact hrows _ rfl

/-- Connecting need not succeed where the record is empty and the migration is
not rejected: the transaction around it can be refused before. -/
theorem not_connected_of_refused_begin :
    ¬∀ (t : Server) (user url name : String),
      (t.database name).Orderly → t.Reached user url name →
      (t.database name).migrations = [] → (t.database name).rejection? = none →
      (connect user url t).1 = .ok name := by
  intro h
  have hreached : office.Reached "ada" "postgres://localhost/vault" "vault" :=
    ⟨rfl, rfl, ⟨"localhost", 5432, none, some "vault", .optional⟩, rfl, rfl, by decide, rfl⟩
  have hconnected := h office "ada" "postgres://localhost/vault" "vault"
    ⟨rfl, by decide, .nil⟩ hreached rfl rfl
  have hinterrupted : (migrate (office.database "vault")).1 =
      .error (.migration (.interrupted "out of memory")) := rfl
  rw [connect_of_route hreached.route_eq, hinterrupted] at hconnected
  cases hconnected

end Roster.Tables
