import Roster.Proofs.Session.Names

/-!
# `Roster.Proofs.Session.Lineage`: clones share, strangers do not

A `Lineage` is a session of which it is written down, for every name,
which step made the store that the name stands for. A step that makes a
store writes down its own number; a clone or a seeder has the number of
what it was made from. Two names are related if they have the same
number. Nothing in this looks at places, so that what is said of
relatives says something of how places are shared: if cloning copied a
store, or if two stores got one cell, the statements would fail.

Nothing is asked of the steps. They may fail, give a name again, move a
store, change the servers, or run the program. Nor is anything asked of
the world in the beginning, since it has no names.

## The invariant

`Lineage.Sound` ties the numbers to the places: related names stand for
the same place, and two names with the same cell inside the process are
related. A name that stands for something after a step comes from one
that stood for the same place before, with its number, or it was given
by the step, and its cell is new (`step_comes`). From this each part of
the invariant follows by the cases of two names: an old one and a new one
differ in their number, as it is below the count of steps, and in their
cell, as that was there. So a step keeps the invariant (`step_sound`),
and from the start it holds after any steps (`after_sound`).

`relatives_share_and_strangers_do_not` says what follows: relatives hold
the same, what is done on a name leaves what strangers hold as it is,
and so does giving a name away.
-/

set_option autoImplicit false

namespace Roster

namespace Session

/-- The cell of a name, if it stands for a store inside the process. -/
def cell? (s : Session) (name : String) : Option Cell :=
  (s.handle? name).bind (·.place.cell?)

/-- What the store inside the process holds that a name stands for. -/
def held? (s : Session) (name : String) : Option Held :=
  (s.cell? name).bind s.world.held?

theorem cell?_eq_some_iff {s : Session} {name : String} {cell : Cell} :
    s.cell? name = some cell ↔
      ∃ handle, s.handle? name = some handle ∧ handle.place.cell? = some cell :=
  Option.bind_eq_some_iff

end Session

/-- A session with the descent of its names. -/
structure Lineage where
  session : Session
  /-- How many steps were taken. -/
  count : Nat
  /-- The number of the step that made the store of a name. -/
  origin? : String → Option Nat

namespace Lineage

/-- The descent in a session in which nothing was done. -/
def start (w : World) : Lineage :=
  ⟨.start w, 0, fun _ => none⟩

/-- The descent after one more step. A name that the step gives is handed
on or new; any other name keeps its origin, as long as it stands for
something. -/
def step (l : Lineage) (step : Step) : Lineage where
  session := (l.session.step step).2
  count := l.count + 1
  origin? name :=
    if (l.session.step step).1.result.isOk ∧ step.gives? = some name then
      match step.source? with
      | some source => l.origin? source
      | none => some l.count
    else if ((l.session.step step).2.handle? name).isSome then l.origin? name
    else none

/-- The descent after some steps. -/
def after (l : Lineage) (steps : List Step) : Lineage :=
  steps.foldl Lineage.step l

/-- Whether two names stand for stores that one step made. -/
def Related (l : Lineage) (a b : String) : Prop :=
  ∃ number, l.origin? a = some number ∧ l.origin? b = some number

/-- What the written descent has to do with places. -/
structure Sound (l : Lineage) : Prop where
  /-- The cells of all names are there. -/
  there : ∀ {name cell}, l.session.cell? name = some cell →
    (l.session.world.held? cell).isSome
  /-- Every name has an origin among the steps so far. -/
  known : ∀ {name handle}, l.session.handle? name = some handle →
    ∃ number, l.origin? name = some number ∧ number < l.count
  /-- Nothing else has an origin. -/
  standing : ∀ {name number}, l.origin? name = some number →
    (l.session.handle? name).isSome
  /-- Names with the same origin stand for the same place. -/
  shared : ∀ {a b : String} {x y : Handle}, l.session.handle? a = some x →
    l.session.handle? b = some y → l.origin? a = l.origin? b → x.place = y.place
  /-- Names with the same cell have the same origin. -/
  apart : ∀ {a b : String} {cell : Cell}, l.session.cell? a = some cell →
    l.session.cell? b = some cell → l.origin? a = l.origin? b

variable {l : Lineage} {step : Step} {name : String} {handle : Handle}

/-- In a session in which nothing was done no name stands for
anything. -/
theorem start_sound (w : World) : (start w).Sound where
  there := nofun
  known := nofun
  standing := nofun
  shared := nofun
  apart := nofun

/-! ### One step -/

/-- Where a name comes from that stands for a handle after a step. -/
inductive Comes (l : Lineage) (step : Step) (name : String) (handle : Handle) : Prop where
  /-- A name stood for the same place before. -/
  | inherited {older : String} {old : Handle} (hold : l.session.handle? older = some old)
      (hplace : old.place = handle.place)
      (horigin : (l.step step).origin? name = l.origin? older)
  /-- The step made the store. -/
  | made (hgives : step.gives? = some name)
      (horigin : (l.step step).origin? name = some l.count)
      (hcell : ∀ cell, handle.place.cell? = some cell →
        l.session.world.held? cell = none ∧
          ((l.step step).session.world.held? cell).isSome)

/-- A name that the step does not give keeps its origin. -/
theorem step_origin?_of_not_given (h : (l.step step).session.handle? name = some handle)
    (hgives : ¬((l.session.step step).1.result.isOk ∧ step.gives? = some name)) :
    (l.step step).origin? name = l.origin? name := by
  have hsome : ((l.session.step step).2.handle? name).isSome := Option.isSome_of_eq_some h
  simp only [Lineage.step, if_neg hgives, if_pos hsome]

/-- The name that a step gives has the origin of what was handed on, or a
new one. -/
theorem step_origin?_of_given (hok : (l.session.step step).1.result.isOk)
    (hgives : step.gives? = some name) :
    (l.step step).origin? name =
      match step.source? with
      | some source => l.origin? source
      | none => some l.count := by
  simp only [Lineage.step]
  rw [if_pos ⟨hok, hgives⟩]

/-- Every name that stands for something after a step comes from
somewhere. -/
theorem step_comes (h : (l.step step).session.handle? name = some handle) :
    Comes l step name handle := by
  have hnamed := l.session.step_named step
  by_cases hgiven : (l.session.step step).1.result.isOk ∧ step.gives? = some name
  · obtain ⟨hok, hgives⟩ := hgiven
    have horigin := step_origin?_of_given hok hgives
    cases hnamed with
    | unnamed hnone _ =>
      rcases hnone with hnone | hfail
      · exact nomatch hnone.symm.trans hgives
      · exact absurd hok hfail
    | made hgives' hsource _ hname _ hcell =>
      obtain rfl := Option.some.inj (hgives.symm.trans hgives')
      obtain rfl := Option.some.inj (hname.symm.trans h)
      rw [hsource] at horigin
      exact .made hgives horigin hcell
    | handed hgives' hsource _ hold hname hplace _ =>
      obtain rfl := Option.some.inj (hgives.symm.trans hgives')
      obtain rfl := Option.some.inj (hname.symm.trans h)
      rw [hsource] at horigin
      exact .inherited hold hplace.symm horigin
  · -- The name stood for the same handle before.
    have horigin := step_origin?_of_not_given h hgiven
    have hsame : l.session.handle? name = some handle := by
      cases hnamed with
      | unnamed _ hsame => exact (hsame name).symm.trans h
      | made hgives _ hok _ hother _ =>
        have hne : name ≠ _ := fun heq => hgiven ⟨hok, heq ▸ hgives⟩
        exact (hother name hne).symm.trans h
      | handed hgives _ hok _ _ _ hother =>
        have hne : name ≠ _ := fun heq => hgiven ⟨hok, heq ▸ hgives⟩
        rcases hother name hne with hkept | ⟨hgone, _⟩
        · exact hkept.symm.trans h
        · exact nomatch hgone.symm.trans h
    exact .inherited hsame rfl horigin

/-- An origin among the steps so far is not that of the next step. -/
theorem Sound.origin?_ne_count (h : l.Sound) (hname : l.session.handle? name = some handle) :
    l.origin? name ≠ some l.count := by
  obtain ⟨number, hnumber, hlt⟩ := h.known hname
  rw [hnumber]
  exact fun heq => Nat.ne_of_lt hlt (Option.some.inj heq)

/-- The cell of a handle that has a name is there. -/
theorem Sound.cell_there (h : l.Sound) (hname : l.session.handle? name = some handle)
    {cell : Cell} (hcell : handle.place.cell? = some cell) :
    (l.session.world.held? cell).isSome :=
  h.there (Session.cell?_eq_some_iff.mpr ⟨handle, hname, hcell⟩)

/-- After a step the cells of all names are there. -/
theorem step_there (h : l.Sound) {cell : Cell}
    (hcell : (l.step step).session.cell? name = some cell) :
    ((l.step step).session.world.held? cell).isSome := by
  obtain ⟨handle, hname, hplace⟩ := Session.cell?_eq_some_iff.mp hcell
  cases step_comes hname with
  | inherited hold hsame _ =>
    exact Session.step_held_isSome (h.cell_there hold (hsame ▸ hplace)) step
  | made _ _ hnew => exact (hnew cell hplace).2

/-- After a step all names have an origin among the steps so far. -/
theorem step_known (h : l.Sound) (hname : (l.step step).session.handle? name = some handle) :
    ∃ number, (l.step step).origin? name = some number ∧ number < (l.step step).count := by
  cases step_comes hname with
  | inherited hold _ horigin =>
    obtain ⟨number, hnumber, hlt⟩ := h.known hold
    exact ⟨number, horigin.trans hnumber, Nat.lt_succ_of_lt hlt⟩
  | made _ horigin _ => exact ⟨l.count, horigin, Nat.lt_succ_self _⟩

/-- After a step only names have an origin. -/
theorem step_standing {number : Nat} (horigin : (l.step step).origin? name = some number) :
    ((l.step step).session.handle? name).isSome := by
  simp only [Lineage.step] at horigin ⊢
  split at horigin
  · rename_i hgiven
    cases l.session.step_named step with
    | unnamed hnone _ =>
      rcases hnone with hnone | hfail
      · exact nomatch hnone.symm.trans hgiven.2
      · exact absurd hgiven.1 hfail
    | made hgives _ _ hname _ _ =>
      obtain rfl := Option.some.inj (hgiven.2.symm.trans hgives)
      exact Option.isSome_of_eq_some hname
    | handed hgives _ _ _ hname _ _ =>
      obtain rfl := Option.some.inj (hgiven.2.symm.trans hgives)
      exact Option.isSome_of_eq_some hname
  · split at horigin
    · assumption
    · cases horigin

/-- After a step names with the same origin stand for the same place. -/
theorem step_shared (h : l.Sound) {a b : String} {x y : Handle}
    (ha : (l.step step).session.handle? a = some x)
    (hb : (l.step step).session.handle? b = some y)
    (hsame : (l.step step).origin? a = (l.step step).origin? b) : x.place = y.place := by
  cases step_comes ha with
  | inherited holdA hplaceA horiginA =>
    rw [horiginA] at hsame
    cases step_comes hb with
    | inherited holdB hplaceB horiginB =>
      rw [horiginB] at hsame
      rw [← hplaceA, ← hplaceB]
      exact h.shared holdA holdB hsame
    | made _ horiginB _ => exact absurd (hsame.trans horiginB) (h.origin?_ne_count holdA)
  | made hgivesA horiginA _ =>
    cases step_comes hb with
    | inherited holdB _ horiginB =>
      rw [horiginA, horiginB] at hsame
      exact absurd hsame.symm (h.origin?_ne_count holdB)
    | made hgivesB _ _ =>
      -- A step gives one name.
      obtain rfl := Option.some.inj (hgivesA.symm.trans hgivesB)
      rw [Option.some.inj (ha.symm.trans hb)]

/-- After a step names with the same cell have the same origin. -/
theorem step_apart (h : l.Sound) {a b : String} {cell : Cell}
    (ha : (l.step step).session.cell? a = some cell)
    (hb : (l.step step).session.cell? b = some cell) :
    (l.step step).origin? a = (l.step step).origin? b := by
  obtain ⟨x, hx, hcellX⟩ := Session.cell?_eq_some_iff.mp ha
  obtain ⟨y, hy, hcellY⟩ := Session.cell?_eq_some_iff.mp hb
  -- A cell that was there is not new.
  have hold {name : String} {handle : Handle}
      (hname : l.session.handle? name = some handle) (hcell : handle.place.cell? = some cell) :
      l.session.world.held? cell ≠ none :=
    Option.isSome_iff_ne_none.mp (h.cell_there hname hcell)
  cases step_comes hx with
  | inherited holdA hplaceA horiginA =>
    rw [← hplaceA] at hcellX
    cases step_comes hy with
    | inherited holdB hplaceB horiginB =>
      rw [← hplaceB] at hcellY
      rw [horiginA, horiginB]
      exact h.apart (Session.cell?_eq_some_iff.mpr ⟨_, holdA, hcellX⟩)
        (Session.cell?_eq_some_iff.mpr ⟨_, holdB, hcellY⟩)
    | made _ _ hnew => exact absurd (hnew cell hcellY).1 (hold holdA hcellX)
  | made _ horiginA hnew =>
    cases step_comes hy with
    | inherited holdB hplaceB _ =>
      exact absurd (hnew cell hcellX).1 (hold holdB (hplaceB ▸ hcellY))
    | made _ horiginB _ => rw [horiginA, horiginB]

/-- Steps keep the descent in line with the places. -/
theorem step_sound (h : l.Sound) (step : Step) : (l.step step).Sound where
  there := step_there h
  known := step_known h
  standing := step_standing
  shared := step_shared h
  apart := step_apart h

/-! ### Some steps -/

/-- The descent is in line with the places after any steps. -/
theorem after_sound (h : l.Sound) (steps : List Step) : (l.after steps).Sound := by
  -- `l` is generalized, as the invariant is carried from one to the next.
  induction steps generalizing l with
  | nil => exact h
  | cons step rest ih => exact ih (step_sound h step)

/-- The descent is that of the session. -/
theorem after_session (l : Lineage) (steps : List Step) :
    (l.after steps).session = l.session.after steps := by
  induction steps generalizing l with
  | nil => rfl
  | cons step rest ih => exact ih (l.step step)

/-- Relatives are the names with the same cell. -/
theorem Sound.cell?_iff (h : l.Sound) {a b : String} {cell : Cell}
    (ha : l.session.cell? a = some cell) :
    l.session.cell? b = some cell ↔ l.Related a b := by
  obtain ⟨x, hx, hcell⟩ := Session.cell?_eq_some_iff.mp ha
  obtain ⟨number, hnumber, _⟩ := h.known hx
  constructor
  · intro hb
    exact ⟨number, hnumber, (h.apart ha hb).symm.trans hnumber⟩
  · rintro ⟨number', hnumber', hb⟩
    obtain ⟨y, hy⟩ := Option.isSome_iff_exists.mp (h.standing hb)
    have hplace := h.shared hx hy (hnumber'.trans hb.symm)
    exact Session.cell?_eq_some_iff.mpr ⟨y, hy, hplace ▸ hcell⟩

/-- Relatives hold the same. -/
theorem Sound.held?_eq (h : l.Sound) {a b : String} (hrelated : l.Related a b) :
    l.session.held? a = l.session.held? b := by
  obtain ⟨number, ha, hb⟩ := hrelated
  obtain ⟨x, hx⟩ := Option.isSome_iff_exists.mp (h.standing ha)
  obtain ⟨y, hy⟩ := Option.isSome_iff_exists.mp (h.standing hb)
  have hplace := h.shared hx hy (ha.trans hb.symm)
  simp only [Session.held?, Session.cell?, hx, hy, Option.bind_some, hplace]

/-- What a name holds changes only if something is done on a
relative. -/
theorem Sound.step_held? (h : l.Sound) {b : String}
    (hkept : (l.step step).session.handle? b = l.session.handle? b)
    (hact : ∀ a action, step = .act a action → ¬l.Related a b) :
    (l.step step).session.held? b = l.session.held? b := by
  have hcell : (l.step step).session.cell? b = l.session.cell? b := by
    unfold Session.cell?
    rw [hkept]
  unfold Session.held?
  rw [hcell]
  cases hb : l.session.cell? b with
  | none => rfl
  | some cell =>
    -- Something done in this cell would be done on a relative.
    obtain ⟨held, hheld⟩ := Option.isSome_iff_exists.mp (h.there hb)
    rw [Option.bind_some, Option.bind_some, hheld]
    refine Session.step_held hheld fun a action x hstep hx hcell' => ?_
    have ha := Session.cell?_eq_some_iff.mpr ⟨x, hx, hcell'⟩
    exact hact a action hstep ((h.cell?_iff ha).mp hb)

/-- A name that a step neither gives nor moves stands for what it stood
for, and has the same origin. -/
theorem Sound.step_name (h : l.Sound) {b : String} (hgives : step.gives? ≠ some b)
    (hmoves : ∀ name, step ≠ .seeder b name) :
    (l.step step).session.handle? b = l.session.handle? b ∧
      (l.step step).origin? b = l.origin? b := by
  have hsame : (l.session.step step).2.handle? b = l.session.handle? b := by
    cases l.session.step_named step with
    | unnamed _ hsame => exact hsame b
    | made hgiven _ _ _ hother _ => exact hother b fun heq => hgives (heq ▸ hgiven)
    | handed hgiven _ _ _ _ _ hother =>
      rcases hother b fun heq => hgives (heq ▸ hgiven) with hkept | ⟨_, hmoved⟩
      · exact hkept
      · exact absurd hmoved (hmoves _)
  refine ⟨hsame, ?_⟩
  simp only [Lineage.step]
  rw [if_neg fun hgiven => hgives hgiven.2, hsame]
  cases horigin : l.origin? b with
  | none => rw [ite_self]
  | some number => rw [if_pos (h.standing horigin)]

/-- A store that a step made is related to no other name. -/
theorem Sound.made_apart (h : l.Sound) (hgives : step.gives? = some name)
    (horigin : (l.step step).origin? name = some l.count) {other : String}
    (hother : other ≠ name) : ¬(l.step step).Related name other := by
  rintro ⟨number, hname, hrelated⟩
  obtain rfl := Option.some.inj (horigin.symm.trans hname)
  obtain ⟨handle, hhandle⟩ := Option.isSome_iff_exists.mp ((step_sound h step).standing hrelated)
  cases step_comes hhandle with
  | inherited hold _ holder => exact h.origin?_ne_count hold (holder.symm.trans hrelated)
  | made hgives' _ _ => exact hother (Option.some.inj (hgives'.symm.trans hgives))

/-- Opening a memory URL succeeds with a store that is new, empty and
related to no other name. -/
theorem Sound.step_connect_memory (h : l.Sound) {url : String} (hurl : scheme url = "memory")
    (name : String) :
    (l.session.step (.connect name url)).1.result = .ok .unit ∧
      (l.step (.connect name url)).session.held? name = some (.memory ⟨[], false⟩) ∧
      ∀ other, other ≠ name → ¬(l.step (.connect name url)).Related name other := by
  have hresult : (l.session.step (.connect name url)).1.result = .ok .unit := by
    show (l.session.clearReceived.ofOpening name .opened
      (l.session.clearReceived.world.connect url)).result = _
    rw [World.connect_memory hurl]
    rfl
  refine ⟨hresult, ?_, fun other => h.made_apart rfl ?_⟩
  · show (l.session.clearReceived.ofOpening name .opened
      (l.session.clearReceived.world.connect url)).state.held? name = _
    rw [World.connect_memory hurl]
    have hcell : (l.session.clearReceived.world.addMemory (.ofRecords [])).1.cell? = some _ := rfl
    unfold Session.held? Session.cell?
    simp only [Session.ofOpening, Session.handle?_bind_self, Option.bind_some, Place.cell?]
    exact (World.addMemory_cell hcell).2
  · rw [step_origin?_of_given (by rw [hresult]; rfl) rfl]
    rfl

end Lineage

/-- Names are related if their stores come from the same step, handed on
by cloning and by making seeders. After any steps, from any world:

Names for stores inside the process hold something, and two of them
share a cell exactly if they are related; so relatives hold the same
records and the same switch or the same failures to come.

What a name holds changes through a step only if the step does something
on a relative of it; giving a name again, or moving it, changes nothing
for the others, and they stay related as they were.

Opening a memory URL gives an empty store without relatives. -/
theorem relatives_share_and_strangers_do_not (w : World) (steps : List Step) :
    let l := (Lineage.start w).after steps
    l.session = (Session.start w).after steps ∧
    (∀ a b, l.Related a b → l.session.held? a = l.session.held? b) ∧
    (∀ a cell, l.session.cell? a = some cell → (l.session.held? a).isSome ∧
      ∀ b, l.session.cell? b = some cell ↔ l.Related a b) ∧
    (∀ step b, (l.step step).session.handle? b = l.session.handle? b →
      (∀ a action, step = .act a action → ¬l.Related a b) →
      (l.step step).session.held? b = l.session.held? b) ∧
    (∀ step b, step.gives? ≠ some b → (∀ name, step ≠ .seeder b name) →
      (l.step step).session.handle? b = l.session.handle? b ∧
        (l.step step).origin? b = l.origin? b) ∧
    ∀ name url, scheme url = "memory" →
      (l.session.step (.connect name url)).1.result = .ok .unit ∧
      (l.step (.connect name url)).session.held? name = some (.memory ⟨[], false⟩) ∧
      ∀ other, other ≠ name → ¬(l.step (.connect name url)).Related name other := by
  intro l
  have hsound : l.Sound := Lineage.after_sound (Lineage.start_sound w) steps
  refine ⟨Lineage.after_session _ steps, fun a b => hsound.held?_eq, fun a cell ha => ⟨?_, fun b =>
    hsound.cell?_iff ha⟩, fun step b => hsound.step_held?, fun step b => hsound.step_name,
    fun name url hurl => hsound.step_connect_memory hurl name⟩
  have hthere := hsound.there ha
  unfold Session.held?
  rwa [ha, Option.bind_some]

/-- A world in which no store was made and no server listens. -/
def barren : World where
  memories := []
  scripted := []
  documents := .empty "localhost:27017" false
  tables := ⟨"localhost:5432", false, []⟩

/-- A store with a clone and a seeder, of which the first name is given
again to a stranger, and another stranger. -/
def family : List Step :=
  [.memory "first" [⟨"Ada", "Byron"⟩], .clone "first" "clone", .seeder "clone" "seeder",
   .connect "opened" "memory://", .memory "first" [⟨"Grace", "Hopper"⟩],
   .act "clone" (.setUnavailable true)]

/-- The clone and the seeder share what the first name once stood for,
and the strangers are left alone. -/
theorem held_family :
    let l := (Lineage.start barren).after family
    l.session.held? "clone" = some (.memory ⟨[⟨"Ada", "Byron"⟩], true⟩) ∧
    l.session.held? "clone" = l.session.held? "seeder" ∧
    (l.step (.act "clone" (.setUnavailable false))).session.held? "first" =
      l.session.held? "first" ∧
    (l.step (.seeder "opened" "clone")).session.held? "seeder" = l.session.held? "seeder" ∧
    (l.step (.seeder "opened" "clone")).session.handle? "first" = l.session.handle? "first" ∧
    (l.step (.connect "first" "memory://")).session.held? "first" =
      some (.memory ⟨[], false⟩) := by
  intro l
  obtain ⟨_, hshare, _, hstrangers, hnames, hopened⟩ :=
    relatives_share_and_strangers_do_not barren family
  have hclone : l.origin? "clone" = some 0 := by decide
  have hseeder : l.origin? "seeder" = some 0 := by decide
  have hfirst : l.origin? "first" = some 4 := by decide
  refine ⟨by decide, hshare "clone" "seeder" ⟨0, hclone, hseeder⟩, ?_, ?_, ?_, ?_⟩
  · refine hstrangers (.act "clone" (.setUnavailable false)) "first" (by decide) ?_
    rintro a action hact ⟨number, ha, hb⟩
    cases hact
    exact nomatch (hclone.symm.trans ha).trans (hb.symm.trans hfirst)
  · exact hstrangers (.seeder "opened" "clone") "seeder" (by decide) nofun
  · exact (hnames (.seeder "opened" "clone") "first" (by decide)
      fun name hmoved => absurd (congrArg Step.source? hmoved) (by simp [Step.source?])).1
  · exact (hopened "first" "memory://" (by decide)).2.1

end Roster
