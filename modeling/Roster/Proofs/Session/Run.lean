import Roster.Proofs.Session.Handle

/-!
# `Roster.Proofs.Session.Run`: some steps, one after another

`Session.Run` says that each of some steps is allowed in the session in
which it is taken, so a name means there what it means at that moment.
The start of a run is a run (`Run.of_prefix`). Between the steps the
session forgets what the servers received, and new names are given to
old places; neither touches what is kept at a place.
-/

set_option autoImplicit false

namespace Roster.Session

/-- Whether each of some steps is allowed in the session in which it is
taken. -/
def Run (allowed : Session → Step → Prop) : Session → List Step → Prop
  | _, [] => True
  | s, step :: rest => allowed s step ∧ Run allowed (s.step step).2 rest

/-- The start of a run is a run. -/
theorem Run.of_prefix {allowed : Session → Step → Prop} {s : Session} {done steps : List Step}
    (h : s.Run allowed steps) (hdone : done <+: steps) : s.Run allowed done := by
  induction done generalizing s steps with
  | nil => trivial
  | cons step rest ih =>
    obtain ⟨more, rfl⟩ := hdone
    exact ⟨h.1, ih h.2 (List.prefix_append rest more)⟩

/-- More steps are taken from where some lead to. -/
theorem after_append (s : Session) (steps more : List Step) :
    s.after (steps ++ more) = (s.after steps).after more :=
  List.foldl_append

/-- The last step of a run is allowed in the session that the others
lead to. -/
theorem Run.last {allowed : Session → Step → Prop} {s : Session} {steps : List Step} {step : Step}
    (h : s.Run allowed (steps ++ [step])) : allowed (s.after steps) step := by
  induction steps generalizing s with
  | nil => exact h.1
  | cons first rest ih => exact ih h.2

/-- What the servers received is forgotten in every database. -/
theorem database_clearReceived (s : Session) (name : String) :
    s.clearReceived.world.database name = { s.world.database name with received := [] } :=
  Tables.Server.database_mapDatabases rfl s.world.tables name

/-- Forgetting what the servers received changes nothing that is
kept. -/
theorem contents_clearReceived (p : Place) (s : Session) :
    p.contents s.clearReceived.world = p.contents s.world := by
  cases p with
  | table database size =>
    show (s.clearReceived.world.database database).kept = (s.world.database database).kept
    rw [database_clearReceived]
    rfl
  | memory _ => rfl
  | scripted _ _ => rfl
  | documents _ => rfl

/-- A new name changes nothing in the world. -/
theorem clone_world (s : Session) (source name : String) :
    (s.clone source name).state.world = s.world := by
  unfold clone
  split
  · rfl
  · split <;> rfl

/-- A new seeder changes nothing in the world. -/
theorem makeSeeder_world (s : Session) (source name : String) :
    (s.makeSeeder source name).state.world = s.world := by
  unfold makeSeeder
  split
  · rfl
  · split <;> rfl

/-- A run of the program leaves its world, with the stores in memory as
they were. -/
theorem runProgram_state (s : Session) (environment : Environment) :
    (s.runProgram environment).state = s.withWorld
      { (Program.transcript environment s.world).2 with memories := s.world.memories } := by
  unfold runProgram
  generalize Program.transcript environment s.world = run
  rfl

end Roster.Session
