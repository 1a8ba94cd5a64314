import Roster.Proofs.Documents.Reaching
import Roster.Proofs.Listing.AllOrNothing
import Roster.Proofs.Session.Names

/-!
# `Roster.Proofs.Session.Namespaces`: collections are kept apart

A step works on a collection if it does something on a handle for it, or
puts documents there (`Session.worksOn?`). The server knows collections
by dotted names, and these tell places apart as long as no database has a
dot in its name. `Session.DotFree` asks that of the databases that a step
works on, and no more: what the server holds and which failures are to
come, how handles were made and what else is done, does not matter.

`step_collection?` is the step: a collection that a step does not work on
is as it was, and neither comes into being nor goes away. By induction
the same holds of a run (`after_collection?`).

Handles for one collection show the same records whenever they show any,
on whatever terms they work (`listed_of_step`). With the same client they
are as good as each other in all they do (`step_act_congr`), whether they
were made from names, from a URL, or from another handle. A plain URL
gives the client that the names of its collection give, if it leads to the
server (`step_connectDocuments_of_plain`). `namespaces_apart` puts all
this together.
-/

set_option autoImplicit false

namespace Roster

open Documents (Client DatabaseOf IsDatabaseName Namespace Plain)
open Store (Operation)

/-- The client of a place at the document server. -/
def Place.client? : Place → Option Client
  | .documents client => some client
  | .memory _ | .scripted .. | .table .. => none

namespace Session

variable {s : Session} {step : Step} {ns : Namespace}

/-- The client of a name, if it stands for a collection. -/
def client? (s : Session) (name : String) : Option Client :=
  (s.handle? name).bind (·.place.client?)

/-- The documents in a collection, if it is there. -/
def collection? (s : Session) (ns : Namespace) : Option (List Documents.Document) :=
  s.world.documents.collection? ns.name

/-- The collection that a step works on. -/
def worksOn? (s : Session) : Step → Option Namespace
  | .act name _ => (s.client? name).map (·.place)
  | .putDocuments place _ => some place
  | _ => none

/-- Whether a step works on databases without a dot in their names. What
a run of the program works on is not asked for, so it is left out. -/
def DotFree (s : Session) (step : Step) : Prop :=
  (∀ environment, step ≠ .program environment) ∧
    ∀ ns, s.worksOn? step = some ns → ns.IsDotFree

/-- Opening a store and naming it leaves the collections alone. -/
theorem ofOpening_collection? (s : Session) (name : String) (form : Form)
    {outcome : Outcome World StoreError Place}
    (h : outcome.state.documents = s.world.documents) :
    (s.ofOpening name form outcome).state.collection? ns = s.collection? ns := by
  unfold collection?
  rw [ofOpening_world, h]

/-- A collection that a step does not work on stays as it is. -/
theorem execute_collection? (hns : ns.IsDotFree) (hstep : s.DotFree step)
    (hother : s.worksOn? step ≠ some ns) :
    (s.execute step).state.collection? ns = s.collection? ns := by
  -- The collections that are worked on have other names.
  have hname : ∀ place, s.worksOn? step = some place → place.name ≠ ns.name := by
    intro place hplace heq
    rw [Namespace.eq_of_name_eq (hstep.2 place hplace) hns heq] at hplace
    exact hother hplace
  cases step with
  | memory name records => rfl
  | scripted name collection records => rfl
  | connect name url =>
    exact s.ofOpening_collection? name .opened (World.connect_documents url s.world)
  | connectDocuments name url =>
    exact s.ofOpening_collection? name .store
      (World.openKind_documents (some .documents) url s.world)
  | connectTable name url =>
    exact s.ofOpening_collection? name .store (World.openKind_documents (some .table) url s.world)
  | documents name place => rfl
  | table name database =>
    unfold collection?
    simp only [execute, openDatabase_world]
    rfl
  | clone source name =>
    unfold collection?
    simp only [execute, clone_world]
  | seeder source name =>
    unfold collection?
    simp only [execute, makeSeeder_world]
  | act name action =>
    simp only [execute]
    cases hhandle : s.handle? name with
    | none => rfl
    | some handle =>
      -- Whatever is done there, it stays at the place of the handle.
      obtain ⟨w, hstate, _, honly⟩ := s.perform_world handle action
      simp only [hstate]
      refine honly.collections ns.name fun client hclient => hname client.place ?_
      simp only [worksOn?, client?, hhandle, Option.bind_some, hclient, Place.client?,
        Option.map_some]
  | other name =>
    simp only [execute]
    split <;> rfl
  | putDocuments place documents =>
    have hne := hname place rfl
    show ((s.world.documents.countUp documents.length).appendAny place.name _).collection?
      ns.name = _
    unfold Documents.Server.appendAny
    split
    · rfl
    · exact Documents.Server.append_onlyIn _ place.name _ ns.name hne.symm
  | failCommand fault => rfl
  | putRows database rows => rfl
  | failStatement database fault => rfl
  | editMigrations database edit => rfl
  | program environment => exact absurd rfl (hstep.1 environment)

/-- A collection that a step of a session does not work on stays as it
is. -/
theorem step_collection? (hns : ns.IsDotFree) (hstep : s.DotFree step)
    (hother : s.worksOn? step ≠ some ns) : (s.step step).2.collection? ns = s.collection? ns :=
  execute_collection? (s := s.clearReceived) hns hstep hother

/-- A collection that no step of a run works on stays as it is. -/
theorem after_collection? {steps : List Step} (hns : ns.IsDotFree) (hrun : s.Run DotFree steps)
    (hother : s.Run (fun s step => s.worksOn? step ≠ some ns) steps) :
    (s.after steps).collection? ns = s.collection? ns := by
  induction steps generalizing s with
  | nil => rfl
  | cons step rest ih =>
    obtain ⟨hstep, hrest⟩ := hrun
    obtain ⟨hfirst, hlater⟩ := hother
    exact (ih hrest hlater).trans (step_collection? hns hstep hfirst)

/-- What is done on a handle for a collection works on that
collection. -/
theorem worksOn?_act {name : String} {client : Client} (h : s.client? name = some client)
    (action : Action) : s.worksOn? (.act name action) = some client.place := by
  rw [worksOn?, h, Option.map_some]

/-- What is done on a handle for a collection works on no other. -/
theorem worksOn?_act_ne {name : String} {client : Client} {action : Action}
    (h : s.client? name = some client) (hne : client.place ≠ ns) :
    s.worksOn? (.act name action) ≠ some ns := by
  rw [worksOn?_act h]
  exact fun heq => hne (Option.some.inj heq)

/-- What is done on a handle for a collection may be done if the
database has no dot in its name. -/
theorem dotFree_act {name : String} {client : Client} {action : Action}
    (h : s.client? name = some client) (hfree : client.place.IsDotFree) :
    s.DotFree (.act name action) := by
  refine ⟨nofun, fun ns hns => ?_⟩
  rw [worksOn?_act h] at hns
  obtain rfl := Option.some.inj hns
  exact hfree

/-! ### Handles for one collection -/

theorem client?_eq_some_iff {name : String} {client : Client} :
    s.client? name = some client ↔
      ∃ handle, s.handle? name = some handle ∧ handle.place = .documents client := by
  unfold client?
  rw [Option.bind_eq_some_iff]
  refine exists_congr fun handle => and_congr_right fun _ => ?_
  cases handle.place <;> simp [Place.client?]

/-- An operation of the store can be done on every form of handle. -/
theorem perform_store {handle : Handle} {client : Client}
    (hplace : handle.place = .documents client) (operation : Operation) :
    s.perform handle (.store operation) =
      s.ofAccess .ofReply ((Place.documents client).store.perform operation) := by
  rw [← hplace]
  rfl

/-- A listing through a name that succeeds shows the records of the
documents in its collection, by identifier. -/
theorem listed_of_step {name : String} {client : Client} {records : List Employee}
    (hname : s.client? name = some client)
    (h : (s.step (.act name (.store .all))).1.result = .ok (.records records)) :
    (client.listed s.world.documents).mapM Documents.Document.toEmployee? = some records := by
  obtain ⟨handle, hhandle, hplace⟩ := client?_eq_some_iff.mp hname
  rw [(step_act (.store .all) hhandle).1, perform_store hplace] at h
  have hrun : (client.all s.clearReceived.world.documents).1 = .ok records := by
    have hvalue : (((client.all s.clearReceived.world.documents).1.map Store.Reply.listed).mapError
        StepError.store).map Value.ofReply = .ok (.records records) := h
    cases hall : (client.all s.clearReceived.world.documents).1 with
    | error e =>
      rw [hall] at hvalue
      cases hvalue
    | ok found =>
      rw [hall] at hvalue
      cases hvalue
      rfl
  exact Documents.mapM_toEmployee?_eq_some_iff.mpr
    (Client.all_eq_ok (s := s.clearReceived.world.documents) hrun)

/-- An operation has the same result and leaves the same session through
every name with the same client. -/
theorem step_act_congr {a b : String} {client : Client} (ha : s.client? a = some client)
    (hb : s.client? b = some client) (operation : Operation) :
    (s.step (.act a (.store operation))).1.result =
        (s.step (.act b (.store operation))).1.result ∧
      (s.step (.act a (.store operation))).2 = (s.step (.act b (.store operation))).2 := by
  obtain ⟨x, hx, hplaceX⟩ := client?_eq_some_iff.mp ha
  obtain ⟨y, hy, hplaceY⟩ := client?_eq_some_iff.mp hb
  obtain ⟨hresultX, hstateX⟩ := step_act (.store operation) hx
  obtain ⟨hresultY, hstateY⟩ := step_act (.store operation) hy
  rw [hresultX, hstateX, hresultY, hstateY, perform_store hplaceX, perform_store hplaceY]
  exact ⟨rfl, rfl⟩

/-- A URL that is opened gives a handle for the employees in the database
that the URL names. -/
theorem step_connectDocuments {name url : String}
    (hok : (s.step (.connectDocuments name url)).1.result.isOk) :
    ∃ client, (s.step (.connectDocuments name url)).2.client? name = some client ∧
      client.place.collection = employeesCollection ∧
      ∀ database, DatabaseOf url database ↔ database = client.place.database := by
  have hreply : s.clearReceived.execute (.connectDocuments name url) =
      s.clearReceived.ofOpening name .store (s.clearReceived.world.openDocuments url) := rfl
  unfold step at hok ⊢
  simp only [answer, hreply] at hok ⊢
  unfold World.openDocuments at hok ⊢
  cases hconnect : Client.connect s.clearReceived.world.machine url
      s.clearReceived.world.documents with
  | error e =>
    rw [hconnect] at hok
    cases hok
  | ok client =>
    refine ⟨client, ?_, Client.connect_place hconnect⟩
    simp only [ofOpening, client?, handle?_bind_self, Option.bind_some, Place.client?]

/-- A plain URL opens. The handle has the usual terms, and it reaches the
server if the URL leads there. -/
theorem step_connectDocuments_of_plain {name url database : String} {endpoints : List String}
    (hplain : Plain s.world.machine url database endpoints) (hdatabase : IsDatabaseName database) :
    (s.step (.connectDocuments name url)).1.result = .ok .unit ∧
      (s.step (.connectDocuments name url)).2.client? name =
        some ⟨⟨database, employeesCollection⟩,
          endpoints.all (· = s.world.documents.address), .usual⟩ := by
  have hreply : s.clearReceived.execute (.connectDocuments name url) =
      s.clearReceived.ofOpening name .store (s.clearReceived.world.openDocuments url) := rfl
  have hconnect := Client.connect_of_plain hplain hdatabase s.clearReceived.world.documents
  unfold step
  simp only [answer, hreply]
  unfold World.openDocuments
  rw [show s.clearReceived.world.machine = s.world.machine from rfl, hconnect]
  refine ⟨rfl, ?_⟩
  simp only [ofOpening, client?, handle?_bind_self, Option.bind_some, Place.client?]
  rfl

/-- A handle that is handed on is for the same collection. -/
theorem step_source_client? {source name : String} (hsource : step.source? = some source)
    (hgives : step.gives? = some name) (hok : (s.step step).1.result.isOk) :
    (s.step step).2.client? name = s.client? source := by
  cases s.step_named step with
  | unnamed hnone _ =>
    rcases hnone with hnone | hfail
    · exact nomatch hnone.symm.trans hgives
    · exact absurd hok hfail
  | made _ hnone _ _ _ _ => exact nomatch hnone.symm.trans hsource
  | handed hgives' hsource' _ hold hname hplace _ =>
    obtain rfl := Option.some.inj (hgives.symm.trans hgives')
    obtain rfl := Option.some.inj (hsource.symm.trans hsource')
    unfold client?
    rw [hname, hold, Option.bind_some, Option.bind_some, hplace]

/-- Collections are kept apart. In a run on databases without a dot in
their names, every step leaves each collection that it does not work on
as it is, whether it succeeds or fails, and whatever the names of the two
look like; so does the whole run if none of its steps works on a
collection.

Names for one collection list the same records whenever they list any, and
names with the same client are as good as each other. A handle is made
from the names of its collection, or from a URL, for the employees in the
database that the URL names, or by handing another one on. A plain URL
that leads to the server gives the client that the names give. -/
theorem namespaces_apart (s : Session) (steps : List Step) (hrun : s.Run DotFree steps) :
    (∀ ns : Namespace, ns.IsDotFree →
      (∀ done step, done ++ [step] <+: steps → (s.after done).worksOn? step ≠ some ns →
        ((s.after done).step step).2.collection? ns = (s.after done).collection? ns) ∧
      (s.Run (fun s step => s.worksOn? step ≠ some ns) steps →
        (s.after steps).collection? ns = s.collection? ns)) ∧
    (∀ a b client client', (s.after steps).client? a = some client →
      (s.after steps).client? b = some client' → client.place = client'.place →
      ∀ records records',
        ((s.after steps).step (.act a (.store .all))).1.result = .ok (.records records) →
        ((s.after steps).step (.act b (.store .all))).1.result = .ok (.records records') →
        records = records') ∧
    (∀ a b client, (s.after steps).client? a = some client →
      (s.after steps).client? b = some client → ∀ operation,
        ((s.after steps).step (.act a (.store operation))).1.result =
            ((s.after steps).step (.act b (.store operation))).1.result ∧
          ((s.after steps).step (.act a (.store operation))).2 =
            ((s.after steps).step (.act b (.store operation))).2) ∧
    (∀ name url, ((s.after steps).step (.connectDocuments name url)).1.result.isOk →
      ∃ client, ((s.after steps).step (.connectDocuments name url)).2.client? name =
          some client ∧
        client.place.collection = employeesCollection ∧
        ∀ database, DatabaseOf url database ↔ database = client.place.database) ∧
    (∀ name url database endpoints,
      Plain (s.after steps).world.machine url database endpoints → IsDatabaseName database →
      ((s.after steps).step (.connectDocuments name url)).1.result = .ok .unit ∧
      ((s.after steps).step (.connectDocuments name url)).2.client? name =
        some ⟨⟨database, employeesCollection⟩,
          endpoints.all (· = (s.after steps).world.documents.address), .usual⟩) ∧
    (∀ name ns, ((s.after steps).step (.documents name ns)).1.result.isOk ∧
      ((s.after steps).step (.documents name ns)).2.client? name = some ⟨ns, true, .usual⟩) ∧
    ∀ step source name, step.source? = some source → step.gives? = some name →
      ((s.after steps).step step).1.result.isOk →
      ((s.after steps).step step).2.client? name = (s.after steps).client? source := by
  refine ⟨fun ns hns => ⟨fun done step hprefix hother => ?_, after_collection? hns hrun⟩, ?_,
    fun a b client => step_act_congr, fun name url => step_connectDocuments,
    fun name url database endpoints => step_connectDocuments_of_plain, fun name ns => ⟨rfl, ?_⟩,
    fun step source name => step_source_client?⟩
  · exact step_collection? hns (hrun.of_prefix hprefix).last hother
  · intro a b client client' ha hb hplace records records' hlistA hlistB
    have hreadA := listed_of_step ha hlistA
    rw [Client.listed, hplace] at hreadA
    exact Option.some.inj (hreadA.symm.trans (listed_of_step hb hlistB))
  · unfold client?
    rw [show ((s.after steps).step (.documents name ns)).2.handle? name = _ from
      handle?_bind_self _ name ⟨.documents ⟨ns, true, .usual⟩, .store, false⟩]
    rfl

/-- A session with a document server that holds three collections with
names that look alike. The network knows it by a name. -/
def market : Session :=
  start
    { memories := []
      scripted := []
      documents := { Documents.Server.empty "localhost:27017" true with
        collections := [("shop.employees", [.ofEmployee ⟨"Ada", "Byron"⟩]),
          ("shop.employees.old", [.ofEmployee ⟨"Grace", "Hopper"⟩]), ("shops.employees", [])] }
      tables := ⟨"localhost:5432", false, []⟩
      machine := { Machine.bare with
        lookup query :=
          if query.name = "db.market.example" then
            some ⟨[("localhost", 27017)], by decide, none, none⟩
          else none } }

/-- A run on one of the collections, by its names and by a URL. -/
def trade : List Step :=
  [.documents "named" ⟨"shop", "employees"⟩, .connectDocuments "opened" "mongodb://localhost/shop",
   .clone "opened" "clone", .seeder "clone" "seeder", .act "seeder" .seed,
   .act "named" (.store .clear), .act "opened" (.store (.insert [⟨"Alan", "Turing"⟩]))]

/-- A URL that spells the database in another way leads to the server. -/
theorem plain_named :
    Plain market.world.machine "mongodb://localhost/sh%6Fp" "shop" ["localhost:27017"] := by
  refine .named ⟨none, "localhost".toList, some "sh%6Fp".toList, none, by decide, by decide,
    by decide⟩ ["localhost".toList] (by decide) rfl rfl ?_ (by decide) (by decide)
    (.cons ?_ .nil)
  · exact Text.Percent.spells_iff.mpr (by decide)
  · exact .bare (by decide)

/-- A URL whose server has to be looked up leads there as well. -/
theorem plain_found :
    Plain market.world.machine "mongodb+srv://db.market.example/shop?tls=false" "shop"
      ["localhost:27017"] := by
  refine .found ⟨none, "db.market.example".toList, some "shop".toList, some "tls=false".toList,
    by decide, by decide, by decide⟩ ⟨[("localhost", 27017)], by decide, none, none⟩ (by decide)
    rfl rfl ?_ (by decide) rfl rfl rfl (by decide)
  exact Text.Percent.spells_iff.mpr (by decide)

/-- The other two collections stay, and a clone of the handle that was
opened lists the same as the one that was made from names. URLs that name
the server, or look it up, give the same client again. -/
theorem collections_market :
    market.Run DotFree trade ∧
    (market.after trade).collection? ⟨"shop", "employees.old"⟩ =
      market.collection? ⟨"shop", "employees.old"⟩ ∧
    (market.after trade).collection? ⟨"shops", "employees"⟩ =
      market.collection? ⟨"shops", "employees"⟩ ∧
    ((market.after trade).step (.act "clone" (.store .all))).1.result =
      ((market.after trade).step (.act "named" (.store .all))).1.result ∧
    DatabaseOf "mongodb://localhost/shop" "shop" ∧
    ((market.after trade).step (.connectDocuments "again" "mongodb://localhost/sh%6Fp")).2.client?
        "again" = some ⟨⟨"shop", "employees"⟩, true, .usual⟩ ∧
    ((market.after trade).step
        (.connectDocuments "found" "mongodb+srv://db.market.example/shop?tls=false")).2.client?
        "found" = some ⟨⟨"shop", "employees"⟩, true, .usual⟩ := by
  have hfree : Namespace.IsDotFree ⟨"shop", "employees"⟩ := by decide
  have hseeder : (market.after (trade.take 4)).client? "seeder" =
      some ⟨⟨"shop", "employees"⟩, true, .usual⟩ := rfl
  have hnamed : (market.after (trade.take 5)).client? "named" =
      some ⟨⟨"shop", "employees"⟩, true, .usual⟩ := rfl
  have hopened : (market.after (trade.take 6)).client? "opened" =
      some ⟨⟨"shop", "employees"⟩, true, .usual⟩ := rfl
  have hrun : market.Run DotFree trade :=
    ⟨⟨nofun, nofun⟩, ⟨nofun, nofun⟩, ⟨nofun, nofun⟩, ⟨nofun, nofun⟩, dotFree_act hseeder hfree,
      dotFree_act hnamed hfree, dotFree_act hopened hfree, trivial⟩
  have hother (ns : Namespace) (hne : (⟨"shop", "employees"⟩ : Namespace) ≠ ns) :
      market.Run (fun s step => s.worksOn? step ≠ some ns) trade :=
    ⟨nofun, nofun, nofun, nofun, worksOn?_act_ne hseeder hne, worksOn?_act_ne hnamed hne,
      worksOn?_act_ne hopened hne, trivial⟩
  obtain ⟨hapart, _, hshared, hopen, hplain, _⟩ := namespaces_apart market trade hrun
  refine ⟨hrun, ?_, ?_, ?_, ?_, ?_, ?_⟩
  · exact (hapart ⟨"shop", "employees.old"⟩ (by decide)).2 (hother _ (by decide))
  · exact (hapart ⟨"shops", "employees"⟩ (by decide)).2 (hother _ (by decide))
  · exact (hshared "clone" "named" _ rfl rfl .all).1
  · obtain ⟨client, hclient, _, hdatabase⟩ := hopen "again" "mongodb://localhost/shop" rfl
    obtain rfl := Option.some.inj (hclient.symm.trans
      (show _ = some (⟨⟨"shop", "employees"⟩, true, .usual⟩ : Client) from rfl))
    exact (hdatabase "shop").mpr rfl
  · exact (hplain "again" _ _ _ plain_named (by decide)).2
  · exact (hplain "found" _ _ _ plain_found (by decide)).2

end Session

end Roster
