import Roster.Proofs.Program
import Roster.Proofs.Scheme

/-!
# `Roster.Proofs.Opening`: the scheme alone picks the store

Opening a URL passes the whole URL to the kind of store that its scheme
names. Which kind that was shows in the answer, since a place says what it
is and the servers have errors of their own (`kindOf_openKind`). So a kind
of store is opened for its schemes and for no others (`connect_eq_iff`).

A scheme that names no kind of store is all that is told of its URL. The
error, the ways in which it is spelled and the events depend on the scheme
alone, and nothing else happens (`connect_unsupported`). `connect_dispatches`
gathers all this.
-/

set_option autoImplicit false

namespace Roster

namespace StoreKind

/-- The schemes of a kind of store. -/
def schemes : StoreKind → List String
  | .documents => ["mongodb", "mongodb+srv"]
  | .table => ["postgres", "postgresql"]
  | .memory => ["memory"]

/-- A scheme names the kind of store whose scheme it is. -/
theorem ofScheme?_eq_some_iff {name : String} {kind : StoreKind} :
    ofScheme? name = some kind ↔ name ∈ kind.schemes := by
  unfold ofScheme?
  constructor
  · intro h
    split at h
    · cases h
      simp_all [schemes]
    · split at h
      · cases h
        simp_all [schemes]
      · split at h <;> cases h
        simp_all [schemes]
  · intro h
    cases kind with
    | documents | table =>
      simp only [schemes, List.mem_cons, List.not_mem_nil, or_false] at h
      rcases h with rfl | rfl <;> rfl
    | memory =>
      cases List.mem_singleton.mp h
      rfl

/-- A scheme of no kind of store names none. -/
theorem ofScheme?_eq_none_iff {name : String} :
    ofScheme? name = none ↔ ∀ kind : StoreKind, name ∉ kind.schemes := by
  simp only [← ofScheme?_eq_some_iff]
  exact Option.eq_none_iff_forall_ne_some

end StoreKind

namespace Documents

/-- Looking servers up fails with an error of the document server. -/
theorem Address.locate_error {a : Address} {machine : Machine} {e : StoreError}
    (h : a.locate machine = .error e) : ∃ cause, e = .documents cause := by
  unfold locate at h
  split at h
  · cases h
  · split at h
    · simp only at h
      split at h
      · cases h
        exact ⟨_, rfl⟩
      · split at h <;> cases h
        exact ⟨_, rfl⟩
    · cases h
      exact ⟨_, rfl⟩

/-- Opening a collection fails with an error of the document server. -/
theorem Client.connect_error {machine : Machine} {url : String} {s : Server} {e : StoreError}
    (h : Client.connect machine url s = .error e) : ∃ cause, e = .documents cause := by
  unfold Client.connect at h
  split at h
  · cases h
    exact ⟨_, rfl⟩
  · split at h
    · rename_i hlocate
      cases h
      exact Address.locate_error hlocate
    · split at h
      · cases h
        exact ⟨_, rfl⟩
      · split at h <;> cases h
        exact ⟨_, rfl⟩

end Documents

namespace Tables

/-- An error is one of the migration. -/
def IsMigration (e : StoreError) : Prop :=
  ∃ cause, e = .migration cause

/-- A statement fails as its refusal is seen. -/
theorem sendAs_failsAs {P : StoreError → Prop} {refusal : String → StoreError}
    (h : ∀ text, P (refusal text)) (statement : Statement) :
    Access.FailsAs P (sendAs refusal statement) := by
  intro s s' e hrun
  unfold sendAs at hrun
  split at hrun <;> cases hrun
  exact h _

/-- A statement that goes with the migrations fails with an error of the
migration. -/
theorem sendOwn_failsAs (statement : Statement) :
    Access.FailsAs IsMigration (sendOwn statement) :=
  sendAs_failsAs (fun _ => ⟨_, rfl⟩) statement

/-- Errands fail with errors of the migration. -/
theorem runErrands_failsAs (errands : List Errand) :
    Access.FailsAs IsMigration (runErrands errands) := by
  induction errands with
  | nil =>
    intro s s' e hrun
    cases hrun
  | cons errand rest ih => exact (sendOwn_failsAs (.errand errand)).andThen fun _ => ih

/-- The record of migrations is refused with an error of the migration. -/
theorem require_failsAs (wrong? : List Applied → Option MigrationError) :
    Access.FailsAs IsMigration (require wrong?) := by
  intro s s' e hrun
  unfold require at hrun
  split at hrun <;> cases hrun
  exact ⟨_, rfl⟩

/-- Applying the migration fails with an error of the migration. -/
theorem apply_failsAs : Access.FailsAs IsMigration apply := by
  have hcreate : Access.FailsAs IsMigration createAndRecord :=
    (sendAs_failsAs (fun _ => ⟨_, rfl⟩) _).andThen fun _ =>
      (sendOwn_failsAs _).andThen fun _ => sendOwn_failsAs _
  -- Undoing the transaction tells what went wrong in it.
  have hundone : Access.FailsAs IsMigration (orAbandon createAndRecord) := by
    intro s s' e hrun
    obtain ⟨_, hfails, _⟩ := orAbandon_eq_error hrun
    exact hcreate _ _ _ hfails
  exact (sendOwn_failsAs _).andThen fun _ => hundone.andThen fun _ => runErrands_failsAs _

/-- Bringing the table up to date fails with an error of the migration. -/
theorem migrate_failsAs : Access.FailsAs IsMigration migrate := by
  have hcheck : Access.FailsAs IsMigration check :=
    (runErrands_failsAs _).andThen fun _ => (require_failsAs _).andThen fun _ =>
      (runErrands_failsAs _).andThen fun _ => require_failsAs _
  have happly : Access.FailsAs IsMigration applyIfNew := by
    intro s s' e hrun
    unfold applyIfNew at hrun
    split at hrun
    · cases hrun
    · exact apply_failsAs _ _ _ hrun
  exact hcheck.andThen fun _ => happly.andThen fun _ => runErrands_failsAs _

/-- A URL is routed nowhere with an error of the table. -/
theorem Server.route_error {t : Server} {user url : String} {e : StoreError}
    (h : t.route user url = .error e) : ∃ cause, e = .table cause := by
  unfold route at h
  split at h
  · cases h
    exact ⟨_, rfl⟩
  · split at h
    · cases h
      exact ⟨_, rfl⟩
    · split at h
      · cases h
        exact ⟨_, rfl⟩
      · simp only at h
        split at h <;> cases h
        exact ⟨_, rfl⟩

/-- Connecting fails with an error of the table or of the migration. -/
theorem connect_error {t t' : Server} {user url : String} {e : StoreError}
    (h : connect user url t = (.error e, t')) : (∃ cause, e = .table cause) ∨ IsMigration e := by
  unfold connect at h
  split at h
  · rename_i hroute
    cases h
    exact .inl (Server.route_error hroute)
  · obtain ⟨_, hmigrate, _⟩ := Access.within_eq.mp (Access.map_eq_error.mp h)
    exact .inr (migrate_failsAs _ _ _ hmigrate)

end Tables

namespace World

/-- What is told when a URL is opened, whatever comes of it. -/
def announcement (url : String) : Event :=
  ⟨.debug, .connecting, "Opening " ++ scheme url ++ " store"⟩

/-- The kind of store that an answer comes from. -/
def kindOf : Except StoreError Place → Option StoreKind
  | .ok (.documents _) | .error (.documents _) => some .documents
  | .ok (.table ..) | .error (.table _) | .error (.migration _) => some .table
  | .ok (.memory _) => some .memory
  | .ok (.scripted ..) | .error .unavailable | .error (.unsupportedUrl _) => none

variable {url : String} {w : World}

/-- The answer tells which kind of store was opened. -/
theorem kindOf_openKind (kind : Option StoreKind) (url : String) (w : World) :
    kindOf (openKind kind url w).result = kind := by
  unfold openKind
  split
  · unfold openDocuments
    split
    · rename_i e hconnect
      obtain ⟨cause, rfl⟩ := Documents.Client.connect_error hconnect
      rfl
    · rfl
  · unfold openTable
    split
    · rename_i e w' hrun
      obtain ⟨s', hconnect, -⟩ := Access.within_eq.mp hrun
      rcases Tables.connect_error hconnect with ⟨cause, rfl⟩ | ⟨cause, rfl⟩ <;> rfl
    · rfl
  · rfl
  · rfl

/-- A kind of store is opened exactly for the URLs whose scheme names
it. -/
theorem connect_eq_iff (kind : Option StoreKind) :
    w.connect url = (openKind kind url w).after [announcement url] ↔
      StoreKind.ofScheme? (scheme url) = kind := by
  constructor
  · -- Equal outcomes have equal answers, and these tell the kinds apart.
    intro h
    have hkind := congrArg (kindOf ·.result) h
    simpa only [connect, Outcome.after_result, kindOf_openKind] using hkind
  · rintro rfl
    rfl

/-- What is let out when a URL is refused. -/
structure Refusal where
  error : StoreError
  message : Option String
  shown : Option String
  events : List Event

/-- What is let out, if a URL is refused. -/
def refusal? (o : Outcome World StoreError Place) : Option Refusal :=
  match o.result with
  | .ok _ => none
  | .error e => some ⟨e, e.message?, e.shown?, o.events⟩

/-- Of a URL whose scheme names no kind of store, only the scheme is told,
and the world stays as it is. -/
theorem connect_unsupported (h : ∀ kind : StoreKind, scheme url ∉ kind.schemes) (w : World) :
    w.connect url = ⟨.error (.unsupportedUrl (scheme url)), [announcement url], w⟩ :=
  (connect_eq_iff none).mpr (StoreKind.ofScheme?_eq_none_iff.mpr h)

-- Of a URL without a separator nothing is told.
example (w : World) :
    w.connect "ada:secret@localhost" =
      ⟨.error (.unsupportedUrl ""), [⟨.debug, .connecting, "Opening  store"⟩], w⟩ := by rfl

/-- URLs with the same scheme, which names no kind of store, let out the
same. -/
theorem refusal?_congr {url' : String} (h : ∀ kind : StoreKind, scheme url ∉ kind.schemes)
    (hsame : scheme url' = scheme url) (w w' : World) :
    refusal? (w'.connect url') = refusal? (w.connect url) := by
  have h' : ∀ kind : StoreKind, scheme url' ∉ kind.schemes := hsame ▸ h
  have hannounced : announcement url' = announcement url := by
    rw [announcement, announcement, hsame]
  rw [connect_unsupported h, connect_unsupported h', hsame, hannounced]
  rfl

/-- The scheme of a URL is what stands before its first separator, and
holds none itself. It alone picks the kind of store, which gets the whole
URL; a memory URL gives a new and empty store. A URL with any other scheme
is refused. Then what is let out is made from the scheme and is the same
for every URL with that scheme, and the servers are left alone. -/
theorem connect_dispatches (url : String) (w : World) :
    (∀ name, IsScheme url name ↔ scheme url = name) ∧
    ¬ schemeSeparator <:+: (scheme url).toList ∧
    (schemeSeparator <:+: url.toList → (scheme url).toList ++ schemeSeparator <+: url.toList) ∧
    (w.connect url = (openDocuments url w).after [announcement url] ↔
      scheme url = "mongodb" ∨ scheme url = "mongodb+srv") ∧
    (w.connect url = (openTable url w).after [announcement url] ↔
      scheme url = "postgres" ∨ scheme url = "postgresql") ∧
    (w.connect url = ⟨.ok (.memory w.memories.length), [announcement url],
        { w with memories := w.memories ++ [.ofRecords []] }⟩ ↔ scheme url = "memory") ∧
    (w.connect url = ⟨.error (.unsupportedUrl (scheme url)), [announcement url], w⟩ ↔
      ∀ kind : StoreKind, scheme url ∉ kind.schemes) ∧
    ((∀ kind : StoreKind, scheme url ∉ kind.schemes) →
      refusal? (w.connect url) = some
        { error := .unsupportedUrl (scheme url)
          message := some ("Unsupported database URL: " ++ scheme url)
          shown := some ("UnsupportedUrl(" ++ Text.Quoted.text (scheme url) ++ ")")
          events := [⟨.debug, .connecting, "Opening " ++ scheme url ++ " store"⟩] } ∧
      ∀ (url' : String) (w' : World), scheme url' = scheme url →
        refusal? (w'.connect url') = refusal? (w.connect url) ∧ (w'.connect url').state = w') := by
  have hnamed : ∀ kind : StoreKind,
      w.connect url = (openKind (some kind) url w).after [announcement url] ↔
        scheme url ∈ kind.schemes :=
    fun kind => (connect_eq_iff (some kind)).trans StoreKind.ofScheme?_eq_some_iff
  refine ⟨fun _ => isScheme_iff, not_infix_scheme url, begins_with_scheme, ?documents, ?table,
    ?memory, ?refused, fun h => ⟨?out, fun url' w' hsame => ⟨refusal?_congr h hsame w w', ?alone⟩⟩⟩
  case documents => exact (hnamed .documents).trans (by simp [StoreKind.schemes])
  case table => exact (hnamed .table).trans (by simp [StoreKind.schemes])
  case memory => exact (hnamed .memory).trans (by simp [StoreKind.schemes])
  case refused => exact (connect_eq_iff none).trans StoreKind.ofScheme?_eq_none_iff
  case out =>
    rw [connect_unsupported h]
    rfl
  case alone => rw [connect_unsupported (hsame ▸ h)]

end World

end Roster
