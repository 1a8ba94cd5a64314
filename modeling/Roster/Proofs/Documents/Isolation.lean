import Roster.Proofs.Documents.Collection
import Roster.Proofs.Text.Split

/-!
# `Roster.Proofs.Documents.Isolation`: a client touches one collection

The server knows a collection by its dotted name. A command changes at
most the collection that it names, and says nothing of the others: not
what they hold, and not whether they are there (`Server.OnlyIn`).
`Client.perform_onlyIn` puts this together for the operations of a
client, whether they succeed or fail.

Two places can share a dotted name only if a database has a dot in its
name: `a.b` and `c` spell the same as `a` and `b.c`. Without such
databases the name tells the place (`Namespace.eq_of_name_eq`), so a
client touches nothing outside its own place.
-/

set_option autoImplicit false

namespace Roster.Documents

open Store (Operation)

/-! ### Names of collections -/

/-- Whether the database of a place has no dot in its name. -/
def Namespace.IsDotFree (ns : Namespace) : Prop :=
  '.' ∉ ns.database.toList

instance (ns : Namespace) : Decidable ns.IsDotFree :=
  inferInstanceAs (Decidable ('.' ∉ ns.database.toList))

/-- Without a dot in the database, the dotted name tells the place. -/
theorem Namespace.eq_of_name_eq {ns ns' : Namespace} (h : ns.IsDotFree) (h' : ns'.IsDotFree)
    (hname : ns.name = ns'.name) : ns = ns' := by
  obtain ⟨database, collection⟩ := ns
  obtain ⟨database', collection'⟩ := ns'
  have hchars := congrArg String.toList hname
  simp only [name, String.toList_append, List.append_assoc] at hchars
  obtain ⟨hdatabase, hcollection⟩ := Text.append_cons_inj h h' hchars
  obtain rfl := String.toList_inj.mp hdatabase
  obtain rfl := String.toList_inj.mp hcollection
  rfl

namespace Server

variable {name : String} {s s₁ s₂ s₃ : Server}

/-! ### Commands -/

/-- A collection, if it is there. -/
def collection? (s : Server) (name : String) : Option (List Document) :=
  s.collections.lookup name

/-- The same collection has the same documents. -/
theorem documents_of_collection? (h : s₂.collection? name = s₁.collection? name) :
    s₂.documents name = s₁.documents name :=
  congrArg (·.getD []) h

/-- Between two states of a server, every collection but the named one is
as it was, or is still not there. -/
def OnlyIn (name : String) (s s' : Server) : Prop :=
  ∀ other, other ≠ name → s'.collection? other = s.collection? other

theorem OnlyIn.refl (name : String) (s : Server) : s.OnlyIn name s :=
  fun _ _ => rfl

theorem OnlyIn.trans (h₁ : s₁.OnlyIn name s₂) (h₂ : s₂.OnlyIn name s₃) : s₁.OnlyIn name s₃ :=
  fun other hother => (h₂ other hother).trans (h₁ other hother)

theorem erase_onlyIn (s : Server) (name : String) : s.OnlyIn name (s.erase name) :=
  fun _ hother => lookup_filter_ne s.collections hother

theorem append_onlyIn (s : Server) (name : String) (more : List Document) :
    s.OnlyIn name (s.append name more) :=
  fun _ hother => lookup_cons_filter_ne s.collections _ hother

theorem appendAny_onlyIn (s : Server) (name : String) (more : List Document) :
    s.OnlyIn name (s.appendAny name more) := by
  unfold appendAny
  split
  · exact .refl _ _
  · exact append_onlyIn _ _ _

/-- An insert touches the collection that it names. -/
theorem insert_onlyIn (writers : Option Writers) (name : String) (ordered : Bool)
    (more : List Document) (s : Server) :
    s.OnlyIn name (s.insert writers name ordered more).2 := by
  have hcases := insert_cases writers name ordered more s
  generalize s.insert writers name ordered more = run at hcases
  cases hcases with
  | stored => exact append_onlyIn _ _ _
  | refused code => exact .refl _ _
  | stopped index code => exact appendAny_onlyIn _ _ _

end Server

namespace Client

variable {α β : Type} {name : String}

/-! ### Operations -/

/-- Clearing touches the client's collection. -/
theorem clear_onlyIn (c : Client) (s : Server) : s.OnlyIn c.place.name (c.clear s).2 := by
  have hcases := c.clear_cases s
  generalize c.clear s = run at hcases
  cases hcases with
  | unsent _ => exact .refl _ _
  | refused code => exact .refl _ _
  | dropped _ _ => exact Server.erase_onlyIn _ _
  | missing _ _ _ => exact .refl _ _

/-- Inserting touches the client's collection. -/
theorem insert_onlyIn (c : Client) (batch : List Employee) (s : Server) :
    s.OnlyIn c.place.name (c.insert batch s).2 := by
  have hsent : s.OnlyIn c.place.name (c.send batch s).2 :=
    (s.countUp batch.length).insert_onlyIn c.terms.writers c.place.name true (newDocuments s batch)
  have hcases := c.insert_cases batch s
  generalize c.insert batch s = run at hcases
  cases hcases with
  | nothing _ => exact .refl _ _
  | unsent _ => exact .refl _ _
  | stored _ => exact hsent
  | failed _ => exact hsent

/-- Listing touches no collection. -/
theorem all_collection? (c : Client) (s : Server) (name : String) :
    (c.all s).2.collection? name = s.collection? name :=
  congrArg (List.lookup name) (c.all_rests s).1

/-- Replacing touches the client's collection. -/
theorem replace_onlyIn (c : Client) (batch : List Employee) (s : Server) :
    s.OnlyIn c.place.name (c.store.replace batch s).2 :=
  Access.andThen_state (c.clear_onlyIn s) fun _ =>
    (c.clear_onlyIn s).trans (c.insert_onlyIn batch _)

/-- Every operation of a client touches its own collection and no other,
whether it succeeds or fails. -/
theorem perform_onlyIn (c : Client) (operation : Operation) (s : Server) :
    s.OnlyIn c.place.name (c.store.perform operation s).2 := by
  cases operation with
  | clear => exact c.clear_onlyIn s
  | insert batch => exact c.insert_onlyIn batch s
  | replace batch => exact c.replace_onlyIn batch s
  | all => exact fun other _ => c.all_collection? s other

end Client

end Roster.Documents
