import Roster.Json.Fault

/-!
# `Roster.Json.Progress`: reading byte by byte

A reader takes a text one byte at a time. Its state after some bytes
holds all that the bytes have decided, so a text is read by folding the
reader's step over its bytes: what is read first is judged first, and a
failure stays whatever follows. The parts of a reader (a string, a
number, a record) are readers themselves that hand back a result when
they are through.
-/

set_option autoImplicit false

namespace Roster.Json

/-- What one byte does to a reader: it reads on, or it is through. -/
inductive Progress (σ α : Type) where
  | more (state : σ)
  | done (result : α)

/-- The reader's next state, or what becomes of the result that it is
through with. -/
def Progress.advance {σ α τ : Type} (onMore : σ → τ) (onDone : α → τ) :
    Progress σ α → τ
  | .more s => onMore s
  | .done a => onDone a

/-- A reader of whole texts. `finish` says what the text means if it
ends here. -/
structure Reader (σ α : Type) where
  start : σ
  step : σ → UInt8 → Except Error σ
  finish : σ → Except Error α

/-- The state of a reader after some bytes. -/
def Reader.after {σ α : Type} (r : Reader σ α) (state : σ) (bytes : List UInt8) :
    Except Error σ :=
  bytes.foldlM r.step state

/-- What a text means. -/
def Reader.run {σ α : Type} (r : Reader σ α) (bytes : List UInt8) : Except Error α :=
  r.after r.start bytes >>= r.finish

/-- Reading on is reading the one part and then the other. -/
theorem Reader.after_append {σ α : Type} (r : Reader σ α) (state : σ)
    (first rest : List UInt8) :
    r.after state (first ++ rest) = r.after state first >>= (r.after · rest) := by
  simp [Reader.after, List.foldlM_append]

end Roster.Json
