import Roster.Program

/-!
# `Roster.Proofs.Program.Report`: what a run prints

A run prints a line for each event that its filter shows. If the filter
shows what the program tells, as the one does that is in use when none is
given (`shows_of_default`), the last lines of a run that succeeds are its
summary, one record a line (`outputLines_summary`).

The report of a failure begins with the words of the failure. If all words
are known it goes on with its causes, line by line (`report_tells`).
-/

set_option autoImplicit false

namespace Roster

/-! ### Output -/

namespace Program

/-- The lines of an event. -/
def linesOf (e : Event) : List String :=
  (Text.splitAll '\n' e.line.toList).map String.ofList

/-- What is printed of some events, and then of others. -/
theorem outputLines_append (filter : Filter) (first second : List Event) :
    outputLines filter (first ++ second) =
      outputLines filter first ++ outputLines filter second := by
  simp only [outputLines, List.filter_append, List.flatMap_append]

/-- What is printed of an event that is shown. -/
theorem outputLines_singleton {filter : Filter} {e : Event} (h : filter.shows e = true) :
    outputLines filter [e] = linesOf e := by
  rw [outputLines, List.filter_cons_of_pos h, List.filter_nil, List.flatMap_singleton]
  rfl

/-- The filter that is in use when none is given shows what the program
tells. -/
theorem shows_of_default (text : String) :
    (Filter.ofEnvironment none).shows (tell text) = true := rfl

/-- The line of a record in a summary. -/
def summaryLine (e : Employee) : String :=
  "INFO seed:   " ++ e.firstName ++ " " ++ e.lastName

/-- The fixed records have names that are printed as they are. -/
theorem linesOf_fixture {e : Employee} (h : e ∈ fixtures) :
    linesOf (tell (Seeder.recordLine e)) = [summaryLine e] := by
  revert e
  decide

/-- What is printed of a summary of fixed records. -/
theorem outputLines_summary {filter : Filter} (hshows : ∀ text, filter.shows (tell text) = true)
    {found : List Employee} (h : ∀ e ∈ found, e ∈ fixtures) :
    outputLines filter (summary found) =
      "INFO seed: Seed completed!" :: found.map summaryLine := by
  have hrecords : outputLines filter (found.map fun e => tell (Seeder.recordLine e)) =
      found.map summaryLine := by
    induction found with
    | nil => rfl
    | cons e rest ih =>
      obtain ⟨he, hrest⟩ := List.forall_mem_cons.mp h
      have hfirst : outputLines filter [tell (Seeder.recordLine e)] = [summaryLine e] :=
        (outputLines_singleton (hshows _)).trans (linesOf_fixture he)
      rw [List.map_cons, List.map_cons, ← ih hrest, ← List.singleton_append, outputLines_append,
        hfirst, List.singleton_append]
  have hdone : outputLines filter [tell "Seed completed!"] = ["INFO seed: Seed completed!"] :=
    (outputLines_singleton (hshows _)).trans (by decide)
  rw [summary, ← List.singleton_append, outputLines_append, hdone, hrecords,
    List.singleton_append]

/-! ### Reports -/

/-- A part stands in the text that is joined from it and others. -/
theorem infix_intercalate {α : Type} {sep part : List α} {parts : List (List α)}
    (h : part ∈ parts) : part <:+: sep.intercalate parts := by
  induction parts with
  | nil => cases h
  | cons first rest ih =>
    cases rest with
    | nil =>
      have hwhole : sep.intercalate [first] = part := by
        rw [List.mem_singleton.mp h, List.intercalate_singleton]
      exact hwhole ▸ List.infix_rfl
    | cons next rest =>
      rw [List.intercalate_cons_cons]
      rcases List.mem_cons.mp h with rfl | h
      · exact ⟨[], sep ++ sep.intercalate (next :: rest), by simp⟩
      · exact (ih h).trans (List.suffix_append ..).isInfix

/-- Each line of a cause stands in the line of the cause. -/
theorem infix_causeLine {cause : String} {line : List Char}
    (h : line ∈ Text.splitAll '\n' cause.toList) (several : Bool) (number : Nat) :
    line <:+: (causeLine several number cause).toList := by
  have hindented (indent : String) : line <:+: (indented indent cause).toList := by
    rw [indented, String.toList_ofList]
    exact infix_intercalate h
  unfold causeLine
  split <;> rw [String.toList_append] <;> exact (hindented _).trans (List.suffix_append ..).isInfix

/-- There is something to say of every failure. -/
theorem exists_messages (e : ProgramError) :
    ∃ first causes, e.account.messages = first :: causes := by
  have hunder (label : String) (a : Account) :
      ∃ first causes, (a.under label).messages = first :: causes := by
    unfold Account.under
    split <;> exact ⟨_, _, rfl⟩
  have hstore (e : StoreError) : ∃ first causes, e.account.messages = first :: causes := by
    cases e with
    | unavailable => exact ⟨_, _, rfl⟩
    | unsupportedUrl scheme => exact ⟨_, _, rfl⟩
    | documents cause => exact ⟨_, _, rfl⟩
    | table cause => exact hunder _ _
    | migration cause => exact hunder _ _
  cases e with
  | opening cause => exact hstore cause
  | seeding cause =>
    cases cause with
    | store cause => exact hunder _ _
    | mismatch expected found => exact ⟨_, _, rfl⟩

/-- A report begins with the words of the failure. If all words are known
it holds every line of every cause. -/
theorem report_tells {a : Account} {first : String} {causes : List String}
    (h : a.messages = first :: causes) :
    ("Error: " ++ first).toList <+: (report a).toList ∧
      (a.isOpen = false → ∀ cause ∈ causes, ∀ line ∈ Text.splitAll '\n' cause.toList,
        line <:+: (report a).toList) := by
  unfold report
  rw [h]
  simp only
  split
  · -- A report that breaks off is its beginning alone.
    rename_i hopen
    exact ⟨List.prefix_rfl, fun hclosed => absurd hopen (by simp [hclosed])⟩
  · split
    · rename_i hempty
      refine ⟨?_, fun _ cause hcause => ?_⟩
      · simp only [String.toList_append]
        exact List.prefix_append ..
      · rw [List.isEmpty_iff.mp hempty] at hcause
        cases hcause
    · refine ⟨?_, fun _ cause hcause line hline => ?_⟩
      · simp only [String.toList_append, List.append_assoc]
        exact List.prefix_append ..
      · -- The cause has a line of its own among the others.
        obtain ⟨i, hi, rfl⟩ := List.mem_iff_getElem.mp hcause
        have hown := infix_causeLine hline (1 < causes.length) i
        have hmem : causeLine (1 < causes.length) i causes[i] ∈
            causes.mapIdx (causeLine (1 < causes.length)) :=
          List.mem_mapIdx.mpr ⟨i, hi, rfl⟩
        have hjoined : (causeLine (1 < causes.length) i causes[i]).toList <:+:
            (String.join (causes.mapIdx (causeLine (1 < causes.length)))).toList := by
          rw [String.toList_join, List.flatMap_def]
          exact List.infix_of_mem_flatten (List.mem_map_of_mem hmem)
        simp only [String.toList_append]
        exact (hown.trans hjoined).trans ⟨_, _, rfl⟩

end Program

end Roster
