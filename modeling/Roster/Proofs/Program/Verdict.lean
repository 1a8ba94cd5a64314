import Roster.Proofs.Employee.Order
import Roster.Proofs.Listing
import Roster.Proofs.Listing.AllOrNothing
import Roster.Proofs.Program.Report
import Roster.Proofs.Program.Stage
import Roster.Proofs.Verifying

/-!
# `Roster.Proofs.Program.Verdict`: no false success

A run has four stages, and each can fail. `Program.Succeeds` says that
all went well: the store was opened, its records were replaced by the
fixed ones, it was listed, and the listing is a permutation of the fixed
records. `Program.Fails` names the first stage that did not, with its
failure and the world that it left. A run does one or the other
(`succeeds_or_fails`), and `run_of_succeeds` and `run_of_fails` say what
it then comes to.

Nothing is asked of the servers. A document server may say that there
was no collection to drop when there was one: the old records then stay,
and only the last two stages notice. `exitCode_eq_zero_iff` holds all the
same: the exit code is zero exactly if the fixed records were found, and
otherwise the report is that of the first failure, after which no server
heard anything.
-/

set_option autoImplicit false

namespace Roster

namespace Outcome

variable {σ ε ε' α β : Type} {first : Outcome σ ε α} {next : α → σ → Outcome σ ε β}

/-- Work goes on after a success. -/
theorem andThen_of_ok {a : α} (h : first.result = .ok a) :
    first.andThen next = (next a first.state).after first.events := by
  unfold andThen
  rw [h]

/-- Work ends with a failure. -/
theorem andThen_of_error {e : ε} (h : first.result = .error e) :
    first.andThen next = ⟨.error e, first.events, first.state⟩ := by
  unfold andThen
  rw [h]

@[simp]
theorem mapError_ok (f : ε → ε') (a : α) (events : List Event) (s : σ) :
    Outcome.mapError f ⟨.ok a, events, s⟩ = ⟨.ok a, events, s⟩ := rfl

/-- A failure is seen as another. -/
theorem mapError_of_error {f : ε → ε'} {e : ε} (h : first.result = .error e) :
    (first.mapError f).result = .error (f e) := by
  unfold mapError
  rw [h]
  rfl

end Outcome

namespace Seeder

variable {σ : Type} {store : Store σ} {s s' : σ}

/-- Only the seeder tells events while it seeds. -/
theorem source_of_mem_seed {event : Event} (h : event ∈ (seed store s).events) :
    event.source = .seeder := by
  unfold seed at h
  cases hrun : store.replace fixtures s with
  | mk result after =>
    rw [hrun] at h
    cases result with
    | error e =>
      rw [List.mem_singleton.mp h]
      rfl
    | ok count =>
      rcases List.mem_cons.mp h with rfl | h
      · rfl
      · rw [List.mem_singleton.mp h]
        rfl

/-- A replace that succeeds makes a seed that succeeds. -/
theorem seed_of_replace_ok {n : Nat} (h : store.replace fixtures s = (.ok n, s')) :
    (seed store s).result = .ok n ∧ (seed store s).state = s' := by
  unfold seed
  rw [h]
  exact ⟨rfl, rfl⟩

/-- A replace that fails makes a seed that fails. -/
theorem seed_of_replace_error {e : StoreError}
    (h : store.replace fixtures s = (.error e, s')) :
    (seed store s).result = .error (.store e) ∧ (seed store s).state = s' := by
  unfold seed
  rw [h]
  exact ⟨rfl, rfl⟩

end Seeder

namespace World

/-- Opening a store tells nothing in the name of the program. -/
theorem source_of_mem_connect {url : String} {w : World} {event : Event}
    (h : event ∈ (w.connect url).events) : event.source ≠ .program := by
  rcases List.mem_append.mp h with h | h
  · rw [List.mem_singleton.mp h]
    exact nofun
  · unfold openKind at h
    split at h
    · unfold openDocuments at h
      split at h
      · cases h
      · rw [List.mem_singleton.mp h]
        exact nofun
    · unfold openTable at h
      split at h
      · cases h
      · rw [List.mem_singleton.mp h]
        exact nofun
    · cases h
    · cases h

end World

namespace Program

/-! ### How a run ends -/

variable {url : String} {w w' : World} {place : Place} {found : List Employee}

/-- Every stage of a run goes well: at the end the place holds what was
found, and that are the fixed records in some order. -/
structure Succeeds (url : String) (w : World) (place : Place) (found : List Employee)
    (w' : World) : Prop where
  opened : (w.connect url).result = .ok place
  replaced : ∃ n w₁, place.store.replace fixtures (w.connect url).state = (.ok n, w₁) ∧
    place.store.all w₁ = (.ok found, w')
  matched : found.Perm fixtures

/-- The first stage of a run that fails, its failure, and the world that
it leaves. -/
inductive Fails (url : String) (w : World) : Stage → ProgramError → World → Prop where
  | opening {e : StoreError} (h : (w.connect url).result = .error e) :
      Fails url w .opening (.opening e) (w.connect url).state
  | replacing {place : Place} {e : StoreError} {w' : World}
      (hopened : (w.connect url).result = .ok place)
      (h : place.store.replace fixtures (w.connect url).state = (.error e, w')) :
      Fails url w .replacing (.seeding (.store e)) w'
  | listing {place : Place} {n : Nat} {w₁ : World} {e : StoreError} {w' : World}
      (hopened : (w.connect url).result = .ok place)
      (hreplaced : place.store.replace fixtures (w.connect url).state = (.ok n, w₁))
      (h : place.store.all w₁ = (.error e, w')) :
      Fails url w .listing (.seeding (.store e)) w'
  | comparing {place : Place} {n : Nat} {w₁ : World} {found : List Employee} {w' : World}
      (hopened : (w.connect url).result = .ok place)
      (hreplaced : place.store.replace fixtures (w.connect url).state = (.ok n, w₁))
      (hlisted : place.store.all w₁ = (.ok found, w')) (h : ¬found.Perm fixtures) :
      Fails url w .comparing (.seeding (.mismatch fixtures found)) w'

/-- Either all stages go well or one is the first that fails. -/
theorem succeeds_or_fails (url : String) (w : World) :
    (∃ place found w', Succeeds url w place found w') ∨
      ∃ stage e w', Fails url w stage e w' := by
  cases hopened : (w.connect url).result with
  | error e => exact Or.inr ⟨_, _, _, .opening hopened⟩
  | ok place =>
    cases hreplaced : place.store.replace fixtures (w.connect url).state with
    | mk result w₁ =>
      cases result with
      | error e => exact Or.inr ⟨_, _, _, .replacing hopened hreplaced⟩
      | ok n =>
        cases hlisted : place.store.all w₁ with
        | mk listing w' =>
          cases listing with
          | error e => exact Or.inr ⟨_, _, _, .listing hopened hreplaced hlisted⟩
          | ok found =>
            by_cases hperm : found.Perm fixtures
            · exact Or.inl ⟨place, found, w', hopened, ⟨n, w₁, hreplaced, hlisted⟩, hperm⟩
            · exact Or.inr ⟨_, _, _, .comparing hopened hreplaced hlisted hperm⟩

/-- A run goes on at the place that was opened. -/
theorem run_of_opened (config : Config)
    (h : (w.connect config.databaseUrl).result = .ok place) :
    run config w =
      ((seedAndVerify place.store (w.connect config.databaseUrl).state).after
        [tell "Connected to database"]).after (w.connect config.databaseUrl).events := by
  unfold run
  rw [Outcome.andThen_of_ok (Outcome.mapError_eq_ok.mpr h)]
  rfl

/-- A store whose records were replaced is verified. -/
theorem seedAndVerify_of_replaced {store : Store World} {n : Nat} {w₁ : World}
    (h : store.replace fixtures w = (.ok n, w₁)) :
    seedAndVerify store w =
      (((Seeder.verify store w₁).mapError .seeding).andThen fun found w =>
        Outcome.tell (summary found) found w).after (Seeder.seed store w).events := by
  obtain ⟨hseed, hseeded⟩ := Seeder.seed_of_replace_ok h
  unfold seedAndVerify
  rw [Outcome.andThen_of_ok (Outcome.mapError_eq_ok.mpr hseed), Outcome.mapError_state, hseeded]
  rfl

/-- If a stage fails, a run fails with its failure and leaves the world
that it left. -/
theorem run_of_fails (config : Config) {stage : Stage} {e : ProgramError}
    (h : Fails config.databaseUrl w stage e w') :
    (run config w).result = .error e ∧ (run config w).state = w' := by
  cases h with
  | opening h =>
    unfold run
    rw [Outcome.andThen_of_error (Outcome.mapError_of_error h)]
    exact ⟨rfl, rfl⟩
  | replacing hopened h =>
    obtain ⟨hseed, hseeded⟩ := Seeder.seed_of_replace_error h
    rw [run_of_opened config hopened, seedAndVerify,
      Outcome.andThen_of_error (Outcome.mapError_of_error hseed)]
    exact ⟨rfl, hseeded⟩
  | listing hopened hreplaced h =>
    rw [run_of_opened config hopened, seedAndVerify_of_replaced hreplaced,
      Seeder.verify_of_all_error h]
    exact ⟨rfl, rfl⟩
  | comparing hopened hreplaced hlisted h =>
    rw [run_of_opened config hopened, seedAndVerify_of_replaced hreplaced,
      Seeder.verify_of_not_perm hlisted h]
    exact ⟨rfl, rfl⟩

/-- If a stage fails, the servers heard nothing of a later one. -/
theorem Fails.hears {stage : Stage} {e : ProgramError} (h : Fails url w stage e w') :
    w.Hears stage w' := by
  have hopening := w.connect_hears url
  cases h with
  | opening h => exact hopening
  | @replacing place e _ _ h =>
    have hreplace := place.replace_hears fixtures (w.connect url).state
    rw [h] at hreplace
    exact (hopening.mono (by decide)).trans hreplace
  | @listing place n w₁ e _ _ hreplaced h =>
    have hreplace := place.replace_hears fixtures (w.connect url).state
    rw [hreplaced] at hreplace
    have hlist := place.all_hears w₁
    rw [h] at hlist
    exact (hopening.mono (by decide)).trans ((hreplace.mono (by decide)).trans hlist)
  | @comparing place n w₁ found _ _ hreplaced hlisted _ =>
    have hreplace := place.replace_hears fixtures (w.connect url).state
    rw [hreplaced] at hreplace
    have hlist := place.all_hears w₁
    rw [hlisted] at hlist
    exact (hopening.mono (by decide)).trans
      ((hreplace.mono (by decide)).trans (hlist.mono (by decide)))

/-! ### What a run that succeeds tells and leaves -/

/-- Events of other parts are none of the program's. -/
theorem filter_program_eq_nil {events : List Event}
    (h : ∀ event ∈ events, event.source ≠ .program) :
    events.filter (·.source = .program) = [] := by
  rw [List.filter_eq_nil_iff]
  intro event hevent
  simpa using h event hevent

/-- What a run says of what it found is told by the program. -/
theorem filter_program_summary (found : List Employee) :
    (summary found).filter (·.source = .program) = summary found := by
  rw [List.filter_eq_self]
  intro event hevent
  rcases List.mem_cons.mp hevent with rfl | hevent
  · rfl
  · obtain ⟨e, _, rfl⟩ := List.mem_map.mp hevent
    rfl

/-- If all stages go well, a run answers what was found. Of what it tells
in its own name, the last is what was found, line by line, and nothing is
told after that. -/
theorem run_of_succeeds (config : Config) (h : Succeeds config.databaseUrl w place found w') :
    (run config w).result = .ok found ∧ (run config w).state = w' ∧
      (run config w).events.filter (·.source = .program) =
        tell "Connected to database" :: summary found ∧
      summary found <:+ (run config w).events := by
  obtain ⟨hopened, ⟨n, w₁, hreplaced, hlisted⟩, hperm⟩ := h
  rw [run_of_opened config hopened, seedAndVerify_of_replaced hreplaced,
    Seeder.verify_of_perm hlisted hperm]
  refine ⟨rfl, rfl, ?_, ?last⟩
  case last =>
    -- The summary is appended to whatever was told before.
    simp only [Outcome.after, Outcome.andThen, Outcome.mapError_ok, Outcome.tell,
      ← List.append_assoc]
    exact List.suffix_append ..
  -- Of opening, seeding and verifying nothing is told by the program.
  have hopening := filter_program_eq_nil fun event (hevent :
    event ∈ (w.connect config.databaseUrl).events) => World.source_of_mem_connect hevent
  have hseeding := filter_program_eq_nil fun event (hevent :
      event ∈ (Seeder.seed place.store (w.connect config.databaseUrl).state).events) => by
    rw [Seeder.source_of_mem_seed hevent]
    decide
  have hverifying := filter_program_eq_nil fun event (hevent :
      event ∈ found.map Seeder.detail) => by
    obtain ⟨e, _, rfl⟩ := List.mem_map.mp hevent
    exact (by decide : Source.seeder ≠ Source.program)
  simp only [Outcome.after, Outcome.andThen, Outcome.mapError_ok, Outcome.tell,
    List.filter_append, hopening, hseeding, hverifying, filter_program_summary, List.nil_append]
  rfl

/-- If a collection was filled and has as many documents as it was filled
with, it is in order: nothing else is there. -/
theorem ordered_of_insert {c : Documents.Client} {s s' : Documents.Server} {n : Nat}
    {batch : List Employee} (hrun : c.insert batch s = (.ok n, s'))
    (hlength : (c.kept s').length = batch.length) : c.Ordered s' := by
  have hkept := (Documents.Client.insert_eq_ok hrun).2
  have hempty : s.documents c.place.name = [] := by
    rw [hkept, List.length_append, List.length_map, Nat.add_eq_right] at hlength
    exact List.map_eq_nil_iff.mp (List.length_eq_zero_iff.mp hlength)
  have hordered := (c.insert_rests batch s).2 (Documents.Client.ordered_of_nil hempty)
  rwa [hrun] at hordered

/-- If all stages go well, the place was in order when it was listed: the
listing is as long as the batch, so nothing stands before it. -/
theorem Succeeds.inOrder {n : Nat} {w₁ : World}
    (hreplaced : place.store.replace fixtures w = (.ok n, w₁))
    (hlisted : place.store.all w₁ = (.ok found, w')) (hmatched : found.Perm fixtures) :
    place.InOrder w₁ := by
  cases place with
  | memory number => trivial
  | scripted number collection => trivial
  | table database size => trivial
  | documents client =>
    obtain ⟨s₁, hact, rfl⟩ := Store.replace_within World.documents World.setDocuments hreplaced
    obtain ⟨_, middle, _, hinsert⟩ := Access.andThen_eq_ok.mp hact
    obtain ⟨s', hall, _⟩ := Store.all_within World.documents World.setDocuments hlisted
    refine ordered_of_insert hinsert ?_
    have hanswer : (client.all s₁).1 = .ok found := congrArg Prod.fst hall
    show ((s₁.documents client.place.name).map Documents.Document.shown).length = _
    rw [List.length_map, ← (client.listed_perm s₁).length_eq,
      (Documents.Client.all_eq_ok hanswer).length_eq, hmatched.length_eq]

/-- If all stages go well, the place holds what was found. -/
theorem Succeeds.kept (h : Succeeds url w place found w') :
    place.decode? (place.contents w') = some found := by
  obtain ⟨n, w₁, hreplaced, hlisted⟩ := h.replaced
  have hgrows := place.perform_grows (.replace fixtures) (w.connect url).state
  rw [show place.store.perform (.replace fixtures) (w.connect url).state = (_, w₁) from
    Access.map_eq_ok.mpr ⟨n, hreplaced, rfl⟩] at hgrows
  exact Place.decode_of_all ((World.connect_inWorld h.opened).of_grows hgrows)
    (Succeeds.inOrder hreplaced hlisted h.matched) hlisted

/-- Each of the fixed records was found once. -/
theorem Succeeds.count (h : Succeeds url w place found w') :
    ∀ e ∈ fixtures, found.count e = 1 := by
  intro e he
  rw [h.matched.count_eq]
  revert e
  decide

/-- If all stages go well and the filter shows what the program tells, the
last lines that are printed are the summary. -/
theorem Succeeds.printed {filter : Filter} (h : Succeeds url w place found w')
    (hshows : ∀ text, filter.shows (tell text) = true) {events : List Event}
    (hlast : summary found <:+ events) :
    "INFO seed: Seed completed!" :: found.map summaryLine <:+ outputLines filter events := by
  obtain ⟨front, rfl⟩ := hlast
  rw [outputLines_append,
    outputLines_summary hshows fun e he => h.matched.mem_iff.mp he]
  exact List.suffix_append ..

/-- The exit code of a run tells whether it succeeded. -/
theorem transcript_of_run (environment : Environment) (w : World) :
    (∀ found, (run (Config.ofEnvironment environment.databaseUrl) w).result = .ok found →
      (transcript environment w).1.exitCode = 0) ∧
    ∀ e, (run (Config.ofEnvironment environment.databaseUrl) w).result = .error e →
      (transcript environment w).1.exitCode = 1 ∧
        (transcript environment w).1.report = report e.account := by
  unfold transcript
  constructor
  · intro found h
    simp only [h]
  · intro e h
    simp only [h]
    trivial

/-- What a run prints is what the filter shows of its events. -/
theorem transcript_output (environment : Environment) (w : World) :
    (transcript environment w).1.output =
      outputLines (Filter.ofEnvironment environment.filter)
        (run (Config.ofEnvironment environment.databaseUrl) w).events := by
  unfold transcript
  simp only
  cases (run (Config.ofEnvironment environment.databaseUrl) w).result <;> rfl

/-- A run never reports a false success. Its exit code is zero exactly if
opening, replacing and listing succeeded in turn and the fixed records
were found, in some order; then the place holds what was found, and the
program told its records in their order. These are the last lines that are
printed, unless a filter was given that hides them. Otherwise its failure
is that of the first stage that failed, and the servers heard nothing of a
later stage. The report begins with the words of the failure and, if all
words are known, holds every line of its causes. -/
theorem exitCode_eq_zero_iff (environment : Environment) (w : World) :
    ((transcript environment w).1.exitCode = 0 ↔
      ∃ place found w', Succeeds (Config.ofEnvironment environment.databaseUrl).databaseUrl w
        place found w') ∧
    (∀ place found w', Succeeds (Config.ofEnvironment environment.databaseUrl).databaseUrl w
        place found w' →
      (transcript environment w).2 = w' ∧
      place.decode? (place.contents w') = some found ∧
      (∀ e ∈ fixtures, found.count e = 1) ∧
      (run (Config.ofEnvironment environment.databaseUrl) w).events.filter
          (·.source = .program) =
        tell "Connected to database" :: tell "Seed completed!" ::
          found.map (fun e => tell ("  " ++ e.firstName ++ " " ++ e.lastName)) ∧
      (environment.filter = none ∨
          (∀ text, (Filter.ofEnvironment environment.filter).shows (tell text) = true) →
        "INFO seed: Seed completed!" ::
            found.map (fun e => "INFO seed:   " ++ e.firstName ++ " " ++ e.lastName) <:+
          (transcript environment w).1.output)) ∧
    ((transcript environment w).1.exitCode ≠ 0 →
      ∃ stage e, Fails (Config.ofEnvironment environment.databaseUrl).databaseUrl w stage e
          (transcript environment w).2 ∧
        (run (Config.ofEnvironment environment.databaseUrl) w).result = .error e ∧
        (transcript environment w).1.exitCode = 1 ∧
        (transcript environment w).1.report = report e.account ∧
        (∃ first causes, e.account.messages = first :: causes ∧
          ("Error: " ++ first).toList <+: (transcript environment w).1.report.toList ∧
          (e.account.isOpen = false → ∀ cause ∈ causes,
            ∀ line ∈ Text.splitAll '\n' cause.toList,
              line <:+: (transcript environment w).1.report.toList)) ∧
        w.Hears stage (transcript environment w).2) := by
  obtain ⟨hsuccess, hfailure⟩ := transcript_of_run environment w
  have hcases := succeeds_or_fails (Config.ofEnvironment environment.databaseUrl).databaseUrl w
  rw [transcript_world]
  refine ⟨⟨fun hzero => ?_, ?_⟩, ?_, fun hnonzero => ?_⟩
  · -- Any stage that failed would have made the exit code one.
    refine hcases.resolve_right ?_
    rintro ⟨stage, e, w', hfails⟩
    have hone := (hfailure e (run_of_fails _ hfails).1).1
    rw [hzero] at hone
    cases hone
  · rintro ⟨place, found, w', hsucceeds⟩
    exact hsuccess found (run_of_succeeds _ hsucceeds).1
  · intro place found w' hsucceeds
    obtain ⟨_, hstate, hevents, hlast⟩ := run_of_succeeds _ hsucceeds
    refine ⟨hstate, hsucceeds.kept, hsucceeds.count, hevents, fun hfilter => ?_⟩
    rw [transcript_output]
    refine hsucceeds.printed ?_ hlast
    rcases hfilter with hnone | hshows
    · rw [hnone]
      exact shows_of_default
    · exact hshows
  · rcases hcases with ⟨place, found, w', hsucceeds⟩ | ⟨stage, e, w', hfails⟩
    · exact absurd (hsuccess found (run_of_succeeds _ hsucceeds).1) hnonzero
    · obtain ⟨hresult, hstate⟩ := run_of_fails _ hfails
      obtain ⟨hone, hreport⟩ := hfailure e hresult
      obtain ⟨first, causes, hmessages⟩ := exists_messages e
      obtain ⟨hbegins, hcauses⟩ := report_tells hmessages
      rw [hstate, hreport]
      exact ⟨stage, e, hfails, hresult, hone, rfl, ⟨first, causes, hmessages, hbegins, hcauses⟩,
        hfails.hears⟩

/-- A document server with one record that says of a drop that there was
no such collection, although there is. -/
def lying : World where
  memories := []
  scripted := []
  documents := { Documents.Server.empty "localhost:27017" true with
    collections := [("test.employees",
      [("_id", .number 1 0) :: Documents.Document.ofEmployee ⟨"Ada", "Byron"⟩])]
    faults := [⟨.drop, Documents.namespaceNotFound, none⟩] }
  tables := ⟨"localhost:5432", false, []⟩

/-- At the lying server the replace succeeds, and the run fails all the
same. In memory a run succeeds. -/
theorem exitCode_lying :
    (Config.ofEnvironment none).databaseUrl = Config.defaultUrl ∧
    ((Place.documents ⟨⟨"test", "employees"⟩, true, .usual⟩).store.replace fixtures lying).1 =
      .ok 3 ∧
    (transcript ⟨none, none⟩ lying).1.exitCode = 1 ∧
    (transcript ⟨some (Text.utf8 "memory://"), none⟩ lying).1.exitCode = 0 ∧
    ["INFO seed: Seed completed!", "INFO seed:   John Doe", "INFO seed:   Jane Smith",
      "INFO seed:   Peter Jones"] <:+
      (transcript ⟨some (Text.utf8 "memory://"), none⟩ lying).1.output := by
  have hopened : (lying.connect Config.defaultUrl).result =
      .ok (.documents ⟨⟨"test", "employees"⟩, true, .usual⟩) := rfl
  obtain ⟨hzero, _, hfailed⟩ := exitCode_eq_zero_iff ⟨none, none⟩ lying
  refine ⟨rfl, rfl, ?_, ?_⟩
  · have hnonzero : (transcript ⟨none, none⟩ lying).1.exitCode ≠ 0 := by
      intro h
      obtain ⟨place, found, w', hsucceeds⟩ := hzero.mp h
      obtain ⟨n, w₁, hreplaced, hlisted⟩ := hsucceeds.replaced
      cases hopened.symm.trans hsucceeds.opened
      cases hreplaced
      -- The record that was there is found beside the fixed ones.
      obtain ⟨s', hall, _⟩ := Store.all_within World.documents World.setDocuments hlisted
      have hlength := (Documents.Client.all_eq_ok (congrArg Prod.fst hall)).length_eq
      rw [(Documents.Client.listed_perm _ _).length_eq, hsucceeds.matched.length_eq] at hlength
      cases hlength
    obtain ⟨_, _, _, _, hone, _⟩ := hfailed hnonzero
    exact hone
  · have hurl : (Config.ofEnvironment (some (Text.utf8 "memory://"))).databaseUrl =
        "memory://" := rfl
    have hsucceeds : Succeeds "memory://" lying (.memory 0) fixtures
        ((Place.memory 0).store.replace fixtures (lying.connect "memory://").state).2 :=
      ⟨rfl, ⟨3, _, rfl, rfl⟩, .refl _⟩
    rw [← hurl] at hsucceeds
    obtain ⟨hzero, hsucceeded, _⟩ :=
      exitCode_eq_zero_iff ⟨some (Text.utf8 "memory://"), none⟩ lying
    obtain ⟨_, _, _, _, hprinted⟩ := hsucceeded _ _ _ hsucceeds
    have hlines : fixtures.map (fun e => "INFO seed:   " ++ e.firstName ++ " " ++ e.lastName) =
        ["INFO seed:   John Doe", "INFO seed:   Jane Smith", "INFO seed:   Peter Jones"] := by
      decide
    rw [← hlines]
    exact ⟨hzero.mpr ⟨_, _, _, hsucceeds⟩, hprinted (.inl rfl)⟩

end Program

end Roster
