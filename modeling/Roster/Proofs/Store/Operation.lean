import Roster.Store

/-!
# `Roster.Proofs.Store.Operation`: operations against a plain list

The reference for every store is a plain list. Clearing empties it,
inserting adds at its end, replacing puts the batch in its place, and
listing leaves it alone (`Operation.leave`, `Operation.answer`). A store
may keep each record in a form of its own, as a document or as a row, so
`leave` is told the form. A store that cannot take some batches is
compared with the list that skips them (`Operation.attempt`).

`Store.Follows` says that an operation, if it succeeds, does to what the
store keeps what it does to a plain list. `Store.Spares` says that it
changes nothing there if it fails, and `Store.Replaces` that a replace
leaves exactly its batch if it succeeds. All three carry over to a store
that is a part of a larger state.

The first part takes composed operations apart: `andThen_eq_ok` and its
companions say from which steps an answer came, so no later proof opens
`Access.andThen`.
-/

set_option autoImplicit false

namespace Roster

/-! ### Composed operations -/

namespace Access

variable {σ τ α β : Type}

/-- Two operations in a row succeed if both do. -/
theorem andThen_eq_ok {first : Access σ α} {next : α → Access σ β} {s s' : σ} {b : β} :
    first.andThen next s = (.ok b, s') ↔
      ∃ a middle, first s = (.ok a, middle) ∧ next a middle = (.ok b, s') := by
  unfold andThen
  cases h : first s with
  | mk result middle => cases result <;> simp [and_assoc]

/-- Two operations in a row fail with the failure of the first, or with
that of the second after the first succeeded. -/
theorem andThen_eq_error {first : Access σ α} {next : α → Access σ β} {s s' : σ}
    {e : StoreError} :
    first.andThen next s = (.error e, s') ↔
      first s = (.error e, s') ∨
        ∃ a middle, first s = (.ok a, middle) ∧ next a middle = (.error e, s') := by
  unfold andThen
  cases h : first s with
  | mk result middle => cases result <;> simp [and_assoc]

/-- What holds where the first operation ends, and where the second one does
after it, holds where both in a row end. -/
theorem andThen_state {first : Access σ α} {next : α → Access σ β} {s : σ} {P : σ → Prop}
    (hfirst : P (first s).2) (hnext : ∀ a, P (next a (first s).2).2) :
    P (first.andThen next s).2 := by
  unfold andThen
  cases h : first s with
  | mk result middle =>
    rw [h] at hfirst hnext
    cases result with
    | ok a => exact hnext a
    | error e => exact hfirst

/-- An operation fails with errors of some kind only. -/
def FailsAs (P : StoreError → Prop) (act : Access σ α) : Prop :=
  ∀ s s' e, act s = (.error e, s') → P e

/-- Two operations in a row fail with errors of a kind if both do. -/
theorem FailsAs.andThen {P : StoreError → Prop} {first : Access σ α} {next : α → Access σ β}
    (hfirst : FailsAs P first) (hnext : ∀ a, FailsAs P (next a)) :
    FailsAs P (first.andThen next) := by
  intro s s' e h
  rcases andThen_eq_error.mp h with h | ⟨a, middle, _, h⟩
  · exact hfirst _ _ _ h
  · exact hnext a _ _ _ h

/-- A changed answer comes from an answer. -/
theorem map_eq_ok {act : Access σ α} {f : α → β} {s s' : σ} {b : β} :
    act.map f s = (.ok b, s') ↔ ∃ a, act s = (.ok a, s') ∧ f a = b := by
  unfold map
  cases h : act s with
  | mk result middle => cases result <;> simp [Except.map, and_assoc, and_comm]

/-- Changing the answer changes no failure. -/
theorem map_eq_error {act : Access σ α} {f : α → β} {s s' : σ} {e : StoreError} :
    act.map f s = (.error e, s') ↔ act s = (.error e, s') := by
  unfold map
  cases h : act s with
  | mk result middle => cases result <;> simp [Except.map]

/-- Changing the answer does not make a failure of it. -/
theorem map_isOk (act : Access σ α) (f : α → β) (s : σ) :
    (act.map f s).1.isOk = (act s).1.isOk := by
  unfold map
  cases (act s).1 <;> rfl

/-- An operation on a part leaves the rest of the state alone. -/
theorem within_eq {act : Access σ α} {get : τ → σ} {set : τ → σ → τ} {t t' : τ}
    {result : Except StoreError α} :
    act.within get set t = (result, t') ↔
      ∃ s', act (get t) = (result, s') ∧ t' = set t s' := by
  unfold within
  constructor
  · intro h
    obtain ⟨hresult, hstate⟩ := Prod.mk.inj h
    exact ⟨(act (get t)).2, Prod.ext hresult rfl, hstate.symm⟩
  · rintro ⟨s', h, rfl⟩
    rw [h]

end Access

namespace Store

variable {σ τ α : Type}

/-! ### The plain list -/

namespace Operation

/-- What an operation makes of a list that keeps each record in some
form. -/
def leave (keep : Employee → α) : Operation → List α → List α
  | .clear, _ => []
  | .insert batch, kept => kept ++ batch.map keep
  | .replace batch, _ => batch.map keep
  | .all, kept => kept

/-- What a plain list answers to an operation. -/
def answer : Operation → List Employee → Reply
  | .clear, _ => .cleared
  | .insert batch, _ => .written batch.length
  | .replace batch, _ => .written batch.length
  | .all, records => .listed records

/-- An operation on a plain list that skips what is refused. -/
def attempt (refuses : Operation → Option StoreError) (operation : Operation) :
    Access (List Employee) Reply := fun records =>
  match refuses operation with
  | some e => (.error e, records)
  | none => (.ok (operation.answer records), operation.leave id records)

/-- What a plain list answers to operations one after another, skipping
what is refused. -/
def answers (refuses : Operation → Option StoreError) :
    List Operation → List Employee → List (Except StoreError Reply)
  | [], _ => []
  | operation :: rest, records =>
    (operation.attempt refuses records).1 ::
      answers refuses rest (operation.attempt refuses records).2

/-- What operations one after another make of a plain list, skipping what
is refused. -/
def leaves (refuses : Operation → Option StoreError) (operations : List Operation)
    (records : List Employee) : List Employee :=
  operations.foldl (fun records operation => (operation.attempt refuses records).2) records

/-- The form of the records does not matter for what becomes of them. -/
theorem leave_map (keep : Employee → α) (operation : Operation) (records : List Employee) :
    operation.leave keep (records.map keep) = (operation.leave id records).map keep := by
  cases operation with
  | clear => rfl
  | insert batch => simp [leave]
  | replace batch => simp [leave]
  | all => rfl

end Operation

/-! ### Stores that follow it -/

/-- If the operation succeeds, it does to what is kept what it does to a
plain list. -/
def Follows (store : Store σ) (contents : σ → List α) (keep : Employee → α)
    (operation : Operation) (s : σ) : Prop :=
  ∀ reply s', store.perform operation s = (.ok reply, s') →
    contents s' = operation.leave keep (contents s)

/-- If the operation fails, what is kept stays as it was. -/
def Spares (store : Store σ) (contents : σ → List α) (operation : Operation) (s : σ) :
    Prop :=
  ∀ e s', store.perform operation s = (.error e, s') → contents s' = contents s

/-- If a replace succeeds, exactly its batch is kept. -/
def Replaces (store : Store σ) (contents : σ → List α) (keep : Employee → α) (s : σ) :
    Prop :=
  ∀ batch n s', store.replace batch s = (.ok n, s') →
    n = batch.length ∧ contents s' = batch.map keep

/-- An operation on a store that is a part of a larger state. -/
theorem perform_within (store : Store σ) (get : τ → σ) (set : τ → σ → τ)
    (operation : Operation) :
    (store.within get set).perform operation = (store.perform operation).within get set := by
  cases operation <;> rfl

/-- What an operation on a part answers, and what it makes of the larger
state. -/
theorem perform_within_eq (get : τ → σ) (set : τ → σ → τ) {store : Store σ}
    {operation : Operation} {t : τ} {s : σ} {result : Except StoreError Reply}
    (hrun : store.perform operation (get t) = (result, s)) :
    (store.within get set).perform operation t = (result, set t s) := by
  rw [perform_within]
  exact Access.within_eq.mpr ⟨s, hrun, rfl⟩

/-- An operation in a larger state is one in the part. -/
theorem of_perform_within (get : τ → σ) (set : τ → σ → τ) {store : Store σ}
    {operation : Operation} {t t' : τ} {result : Except StoreError Reply}
    (hrun : (store.within get set).perform operation t = (result, t')) :
    ∃ s', store.perform operation (get t) = (result, s') ∧ t' = set t s' := by
  rw [perform_within] at hrun
  exact Access.within_eq.mp hrun

/-- A replace in a larger state is one in the part. -/
theorem replace_within (get : τ → σ) (set : τ → σ → τ) {store : Store σ}
    {batch : List Employee} {t t' : τ} {result : Except StoreError Nat}
    (hrun : (store.within get set).replace batch t = (result, t')) :
    ∃ s', store.replace batch (get t) = (result, s') ∧ t' = set t s' :=
  Access.within_eq.mp hrun

/-- A listing in a larger state is one in the part. -/
theorem all_within (get : τ → σ) (set : τ → σ → τ) {store : Store σ} {t t' : τ}
    {result : Except StoreError (List Employee)}
    (hrun : (store.within get set).all t = (result, t')) :
    ∃ s', store.all (get t) = (result, s') ∧ t' = set t s' :=
  Access.within_eq.mp hrun

/-- A part of a larger state follows the list if the part by itself
does. -/
theorem Follows.within (get : τ → σ) (set : τ → σ → τ) {store : Store σ}
    {contents : σ → List α} {keep : Employee → α} {operation : Operation} {t : τ}
    (h : store.Follows contents keep operation (get t))
    (hset : ∀ s, get (set t s) = s) :
    (store.within get set).Follows (fun t => contents (get t)) keep operation t := by
  intro reply t' hrun
  obtain ⟨s', hact, rfl⟩ := of_perform_within get set hrun
  show contents (get (set t s')) = _
  rw [hset]
  exact h reply s' hact

/-- A failure in a part of a larger state changes nothing if it changes
nothing in the part by itself. -/
theorem Spares.within (get : τ → σ) (set : τ → σ → τ) {store : Store σ}
    {contents : σ → List α} {operation : Operation} {t : τ}
    (h : store.Spares contents operation (get t)) (hset : ∀ s, get (set t s) = s) :
    (store.within get set).Spares (fun t => contents (get t)) operation t := by
  intro e t' hrun
  obtain ⟨s', hact, rfl⟩ := of_perform_within get set hrun
  show contents (get (set t s')) = _
  rw [hset]
  exact h e s' hact

/-- A replace in a part of a larger state leaves exactly its batch if it
does in the part by itself. -/
theorem Replaces.within (get : τ → σ) (set : τ → σ → τ) {store : Store σ}
    {contents : σ → List α} {keep : Employee → α} {t : τ}
    (h : store.Replaces contents keep (get t)) (hset : ∀ s, get (set t s) = s) :
    (store.within get set).Replaces (fun t => contents (get t)) keep t := by
  intro batch n t' hrun
  obtain ⟨s', hreplace, rfl⟩ := replace_within get set hrun
  show n = batch.length ∧ contents (get (set t s')) = _
  rw [hset]
  exact h batch n s' hreplace

/-- A store that answers like the plain list holds what the list
holds. -/
theorem contents_of_attempt {store : Store σ} {contents : σ → List α} {keep : Employee → α}
    {refuses : Operation → Option StoreError} {operation : Operation} {s s' : σ}
    {records : List Employee} (hfollows : store.Follows contents keep operation s)
    (hspares : refuses operation ≠ none → store.Spares contents operation s)
    (hkept : contents s = records.map keep)
    (hrun : store.perform operation s = ((operation.attempt refuses records).1, s')) :
    contents s' = (operation.attempt refuses records).2.map keep := by
  unfold Operation.attempt at hrun ⊢
  -- The answer tells which case it is, so `hfollows` is only asked about a
  -- success and `hspares` only about a refusal.
  cases hrefuses : refuses operation with
  | none =>
    rw [hrefuses] at hrun
    rw [hfollows _ s' hrun, hkept]
    exact operation.leave_map keep records
  | some e =>
    rw [hrefuses] at hrun
    rw [hspares (by simp [hrefuses]) e s' hrun, hkept]

end Store

end Roster
