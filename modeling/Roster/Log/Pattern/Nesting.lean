/-!
# `Roster.Log.Pattern.Nesting`: how deep a pattern nests

A part that holds others nests one deeper than the deepest of them. A
single part in a row, or a single alternative, stands for itself.
-/

set_option autoImplicit false

namespace Roster.Pattern

/-- How deep a well-formed pattern nests at most. -/
def greatestDepth : Nat :=
  250

/-- The depth of some parts together, from their depths. -/
def together : List Nat → Nat
  | [] => 0
  | [depth] => depth
  | depths => depths.foldl max 0 + 1

end Roster.Pattern
