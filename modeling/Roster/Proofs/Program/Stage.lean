import Roster.Proofs.Program

/-!
# `Roster.Proofs.Program.Stage`: what a stage of a run sends

A run opens a store, replaces its records, lists them and compares them
with the fixed ones (`Stage`). Each command and each statement belongs to
the stage that sends it. `World.Hears` says of two states of the world
that between them the servers received nothing of a stage after a given
one. `connect_hears`, `Place.replace_hears` and `Place.all_hears` show
this for the stages one by one: no stage sends what belongs to a later
one, whatever is answered and whichever faults strike.

The servers keep what they receive, so what a stage sent is what it added
at the end (`ReceivesOnly`).
-/

set_option autoImplicit false

namespace Roster

/-- The stages of a run, in their order. -/
inductive Stage where
  | opening
  | replacing
  | listing
  | comparing
deriving DecidableEq, Repr

/-- The rank of a stage. What comes later has the greater rank. -/
def Stage.rank : Stage → Nat
  | .opening => 0
  | .replacing => 1
  | .listing => 2
  | .comparing => 3

/-- The stage that sends a command. -/
def Documents.Command.stage : Documents.Command → Stage
  | .drop _ | .insert .. => .replacing
  | .find .. => .listing

/-- The first stage that sends a statement. A migration is carried out in a
transaction as well as a replace. -/
def Tables.Statement.stage : Tables.Statement → Stage
  | .begin | .commit | .rollback | .create | .record .. | .errand _ => .opening
  | .delete | .insert _ => .replacing
  | .select => .listing

/-! ### What is added at the end -/

/-- Between two states of a list only what is allowed was added, at its
end. -/
def ReceivesOnly {α : Type} (allowed : α → Prop) (before after : List α) : Prop :=
  ∃ more, after = before ++ more ∧ ∀ a ∈ more, allowed a

namespace ReceivesOnly

variable {α σ β γ : Type} {allowed : α → Prop} {l l₁ l₂ l₃ : List α}

theorem refl (allowed : α → Prop) (l : List α) : ReceivesOnly allowed l l :=
  ⟨[], (List.append_nil l).symm, by simp⟩

theorem trans (h₁ : ReceivesOnly allowed l₁ l₂) (h₂ : ReceivesOnly allowed l₂ l₃) :
    ReceivesOnly allowed l₁ l₃ := by
  obtain ⟨more, rfl, hmore⟩ := h₁
  obtain ⟨rest, rfl, hrest⟩ := h₂
  refine ⟨more ++ rest, List.append_assoc .., fun a ha => ?_⟩
  rcases List.mem_append.mp ha with ha | ha
  · exact hmore a ha
  · exact hrest a ha

/-- What is allowed may be added. -/
theorem single {a : α} (h : allowed a) : ReceivesOnly allowed l (l ++ [a]) := by
  refine ⟨[a], rfl, fun b hb => ?_⟩
  rw [List.mem_singleton.mp hb]
  exact h

/-- What is allowed is allowed by a weaker rule. -/
theorem mono {allowed' : α → Prop} (h : ReceivesOnly allowed l₁ l₂)
    (hweaker : ∀ a, allowed a → allowed' a) : ReceivesOnly allowed' l₁ l₂ := by
  obtain ⟨more, hadded, hmore⟩ := h
  exact ⟨more, hadded, fun a ha => hweaker a (hmore a ha)⟩

/-- Two operations in a row add only what is allowed if each does. -/
theorem andThen (received : σ → List α) {first : Access σ β} {next : β → Access σ γ} {s : σ}
    (hfirst : ReceivesOnly allowed (received s) (received (first s).2))
    (hnext : ∀ b s, ReceivesOnly allowed (received s) (received (next b s).2)) :
    ReceivesOnly allowed (received s) (received (first.andThen next s).2) := by
  unfold Access.andThen
  cases hrun : first s with
  | mk result middle =>
    rw [hrun] at hfirst
    cases result with
    | ok b => exact hfirst.trans (hnext b middle)
    | error e => exact hfirst

end ReceivesOnly

/-! ### The document server -/

namespace Documents

variable {stage : Stage}

/-- Nothing of a stage after the given one is sent to a document
server. -/
def Server.Hears (stage : Stage) (s s' : Server) : Prop :=
  ReceivesOnly (fun command => command.stage.rank ≤ stage.rank) s.received s'.received

/-- A command is kept by the server that receives it. -/
theorem Server.insert_received (writers : Option Writers) (name : String) (ordered : Bool)
    (more : List Document) (s : Server) :
    (s.insert writers name ordered more).2.received =
      s.received ++ [.insert name ordered more] := by
  have hcases := insert_cases writers name ordered more s
  generalize s.insert writers name ordered more = run at hcases
  cases hcases with
  | stored => rfl
  | refused code => rfl
  | stopped index code =>
    unfold appendAny
    split <;> rfl

/-- Clearing sends a drop at most. -/
theorem Client.clear_hears (c : Client) (s : Server) :
    s.Hears .replacing (c.clear s).2 := by
  have hdrop : s.Hears .replacing (s.noted (.drop c.place.name) .drop) :=
    .single (Nat.le_refl _)
  have hcases := c.clear_cases s
  generalize c.clear s = run at hcases
  cases hcases with
  | unsent _ => exact .refl _ _
  | refused code => exact hdrop
  | dropped _ _ => exact hdrop
  | missing _ _ _ => exact hdrop

/-- Inserting sends an insert at most. -/
theorem Client.insert_hears (c : Client) (batch : List Employee) (s : Server) :
    s.Hears .replacing (c.insert batch s).2 := by
  have hinsert : s.Hears .replacing (c.send batch s).2 := by
    unfold Server.Hears send
    rw [Server.insert_received]
    exact .single (Nat.le_refl _)
  have hcases := c.insert_cases batch s
  generalize c.insert batch s = run at hcases
  cases hcases with
  | nothing _ => exact .refl _ _
  | unsent _ => exact .refl _ _
  | stored _ => exact hinsert
  | failed _ => exact hinsert

/-- Listing sends a find, or two, or none. -/
theorem Client.all_hears (c : Client) (s : Server) : s.Hears .listing (c.all s).2 := by
  have hasked (s : Server) : s.Hears .listing (c.asked s) := .single (Nat.le_refl _)
  have hfound {s' : Server} (h : s' = c.asked s ∨ s' = c.asked (c.asked s)) :
      s.Hears .listing s' := by
    rcases h with rfl | rfl
    · exact hasked s
    · exact (hasked s).trans (hasked (c.asked s))
  have hcases := c.all_cases s
  generalize c.all s = run at hcases
  cases hcases with
  | unreachable _ => exact .refl _ _
  | refused _ _ h => exact hfound h
  | undecodable _ _ h => exact hfound h
  | listed _ _ h => exact hfound h

/-- Replacing sends a drop and an insert at most. -/
theorem Client.replace_hears (c : Client) (batch : List Employee) (s : Server) :
    s.Hears .replacing (c.store.replace batch s).2 :=
  ReceivesOnly.andThen Server.received (c.clear_hears s)
    fun _ s => c.insert_hears batch s

end Documents

/-! ### The table server -/

namespace Tables

/-- Nothing of a stage after the given one is sent to a database. -/
def Database.Hears (stage : Stage) (s s' : Database) : Prop :=
  ReceivesOnly (fun statement => statement.stage.rank ≤ stage.rank) s.received s'.received

variable {s s' : Database} {stage : Stage}

/-- The effect of a statement does not change what was received. -/
theorem Database.effect_received {statement : Statement} (h : s.effect statement = .ok s') :
    s'.received = s.received := by
  cases statement with
  | begin => cases h; rfl
  | commit => cases h; rfl
  | record version description => cases h; rfl
  | errand errand => cases h; rfl
  | delete | select | rollback | create =>
    simp only [effect] at h
    split at h <;> cases h <;> rfl
  | insert records =>
    simp only [effect] at h
    split at h
    · cases h
    · split at h <;> cases h
      rfl

/-- A statement is kept by the database that receives it. -/
theorem Database.execute_hears {statement : Statement} (h : statement.stage.rank ≤ stage.rank)
    (s : Database) : s.Hears stage (s.execute statement).2 := by
  have hnoted : s.Hears stage (s.noted statement) := .single h
  rcases s.execute_cases statement with ⟨text, hrun⟩ | ⟨s', heffect, hrun⟩ <;> rw [hrun]
  · exact hnoted
  · unfold Hears
    rw [effect_received heffect]
    exact hnoted

/-- Sending a statement sends it alone. -/
theorem sendAs_hears {statement : Statement} (h : statement.stage.rank ≤ stage.rank)
    (refusal : String → StoreError) (s : Database) :
    s.Hears stage (sendAs refusal statement s).2 := by
  have hexecute := s.execute_hears h
  unfold sendAs
  cases hrun : s.execute statement with
  | mk result after =>
    rw [hrun] at hexecute
    cases result <;> exact hexecute

/-- Inserting sends an insert at most. -/
theorem insert_hears (batch : List Employee) (s : Database) :
    s.Hears .replacing (insert batch s).2 := by
  unfold insert
  split
  · exact .refl _ _
  · split
    · exact .refl _ _
    · exact ReceivesOnly.andThen Database.received
        (sendAs_hears (Nat.le_refl _) _ s) fun _ _ => .refl _ _

/-- Undoing a transaction sends a rollback. -/
theorem orAbandon_hears {α : Type} {act : Access Database α}
    (h : s.Hears stage (act s).2) : s.Hears stage (orAbandon act s).2 := by
  unfold orAbandon
  cases hrun : act s with
  | mk result middle =>
    rw [hrun] at h
    cases result with
    | ok a => exact h
    | error e => exact h.trans (middle.execute_hears (Nat.zero_le _))

/-- Replacing sends no listing. -/
theorem replace_hears (batch : List Employee) (s : Database) :
    s.Hears .replacing (replace batch s).2 := by
  refine ReceivesOnly.andThen Database.received
    (sendAs_hears (Nat.zero_le _) _ s) fun _ s => orAbandon_hears ?_
  refine ReceivesOnly.andThen Database.received
    (sendAs_hears (Nat.le_refl _) _ s) fun _ s => ?_
  refine ReceivesOnly.andThen Database.received (insert_hears batch s) fun _ s => ?_
  exact ReceivesOnly.andThen Database.received
    (sendAs_hears (Nat.zero_le _) _ s) fun _ _ => .refl _ _

/-- Listing sends a select. -/
theorem all_hears (s : Database) : s.Hears .listing (all s).2 :=
  ReceivesOnly.andThen Database.received
    (sendAs_hears (Nat.le_refl _) _ s) fun _ _ => .refl _ _

/-- Errands belong to the opening. -/
theorem runErrands_hears (errands : List Errand) (s : Database) :
    s.Hears .opening (runErrands errands s).2 := by
  induction errands generalizing s with
  | nil => exact .refl _ _
  | cons errand rest ih =>
    exact ReceivesOnly.andThen Database.received (sendAs_hears (Nat.le_refl _) _ s) fun _ s => ih s

/-- Looking at the record of migrations sends nothing. -/
theorem require_hears (wrong? : List Applied → Option MigrationError) (s : Database) :
    s.Hears .opening (require wrong? s).2 := by
  unfold require
  split <;> exact .refl _ _

/-- Applying the migration sends what opens the store. -/
theorem apply_hears (s : Database) : s.Hears .opening (apply s).2 := by
  refine ReceivesOnly.andThen Database.received
    (sendAs_hears (Nat.le_refl _) _ s) fun _ s => ?_
  refine ReceivesOnly.andThen Database.received (orAbandon_hears ?_) fun _ => runErrands_hears _
  refine ReceivesOnly.andThen Database.received
    (sendAs_hears (Nat.le_refl _) _ s) fun _ s => ?_
  exact ReceivesOnly.andThen Database.received
    (sendAs_hears (Nat.le_refl _) _ s) fun _ => sendAs_hears (Nat.le_refl _) _

/-- Bringing the table up to date sends what opens the store. -/
theorem migrate_hears (s : Database) : s.Hears .opening (migrate s).2 := by
  refine ReceivesOnly.andThen Database.received ?_ fun _ s =>
    ReceivesOnly.andThen Database.received ?_ fun _ => runErrands_hears _
  · refine ReceivesOnly.andThen Database.received (runErrands_hears _ s) fun _ s => ?_
    refine ReceivesOnly.andThen Database.received (require_hears _ s) fun _ s => ?_
    exact ReceivesOnly.andThen Database.received (runErrands_hears _ s) fun _ => require_hears _
  · unfold applyIfNew
    split
    · exact .refl _ _
    · exact apply_hears s

end Tables

/-! ### The world -/

namespace World

variable {w w₁ w₂ w₃ : World} {stage stage' : Stage}

/-- Between two states of the world the servers received nothing of a
stage after a given one, in no database. -/
structure Hears (stage : Stage) (w w' : World) : Prop where
  documents : w.documents.Hears stage w'.documents
  tables : ∀ name, (w.database name).Hears stage (w'.database name)

theorem Hears.refl (stage : Stage) (w : World) : w.Hears stage w :=
  ⟨.refl _ _, fun _ => .refl _ _⟩

theorem Hears.trans (h₁ : w₁.Hears stage w₂) (h₂ : w₂.Hears stage w₃) : w₁.Hears stage w₃ :=
  ⟨h₁.documents.trans h₂.documents, fun name => (h₁.tables name).trans (h₂.tables name)⟩

/-- What belongs to no stage after one belongs to none after a later
one. -/
theorem Hears.mono (h : w₁.Hears stage w₂) (hle : stage.rank ≤ stage'.rank) :
    w₁.Hears stage' w₂ :=
  ⟨h.documents.mono fun _ h => Nat.le_trans h hle,
    fun name => (h.tables name).mono fun _ h => Nat.le_trans h hle⟩

/-- What one database hears is all that is heard if nothing else happens. -/
theorem hears_setDatabase {name : String} {d : Tables.Database}
    (h : (w.database name).Hears stage d) : w.Hears stage (setDatabase name w d) where
  documents := .refl _ _
  tables other := by
    by_cases hother : other = name
    · subst hother
      rwa [database_setDatabase]
    · rw [database_setDatabase_ne hother]
      exact .refl _ _

/-- Connecting to a table server sends what opens a store. -/
theorem connectTables_hears (url : String) (w : World) :
    w.Hears .opening
      ((Tables.connect w.machine.user url).within World.tables World.setTables w).2 := by
  rcases Tables.connect_eq w.machine.user url w.tables with ⟨e, hrun⟩ | ⟨name, hrun⟩ <;>
    rw [show (Tables.connect w.machine.user url).within World.tables World.setTables w = _ from
      Access.within_eq.mpr ⟨_, hrun, rfl⟩]
  · exact .refl _ w
  · exact hears_setDatabase (Tables.migrate_hears (w.tables.database name))

/-- Opening a store sends what migrates, and nothing else. -/
theorem connect_hears (url : String) (w : World) : w.Hears .opening (w.connect url).state := by
  rw [connect, Outcome.after_state]
  unfold openKind
  split
  · unfold openDocuments
    split <;> exact .refl _ w
  · have htables := connectTables_hears url w
    unfold openTable
    cases hrun : (Tables.connect w.machine.user url).within World.tables World.setTables w with
    | mk result w' =>
      rw [hrun] at htables
      cases result <;> exact htables
  · exact ⟨.refl _ _, fun _ => .refl _ _⟩
  · exact .refl _ w

end World

namespace Place

/-- Replacing the records at a place sends no listing. -/
theorem replace_hears (p : Place) (batch : List Employee) (w : World) :
    w.Hears .replacing (p.store.replace batch w).2 := by
  cases p with
  | memory number => exact ⟨.refl _ _, fun _ => .refl _ _⟩
  | scripted number collection => exact ⟨.refl _ _, fun _ => .refl _ _⟩
  | documents client => exact ⟨client.replace_hears batch w.documents, fun _ => .refl _ _⟩
  | table database size =>
    exact World.hears_setDatabase (Tables.replace_hears batch (w.database database))

/-- Listing the records at a place sends a listing at most. -/
theorem all_hears (p : Place) (w : World) : w.Hears .listing (p.store.all w).2 := by
  cases p with
  | memory number => exact ⟨.refl _ _, fun _ => .refl _ _⟩
  | scripted number collection => exact ⟨.refl _ _, fun _ => .refl _ _⟩
  | documents client => exact ⟨client.all_hears w.documents, fun _ => .refl _ _⟩
  | table database size => exact World.hears_setDatabase (Tables.all_hears (w.database database))

end Place

end Roster
