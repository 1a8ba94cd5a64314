/-!
# `Roster.Text.Split`: texts cut at a character

Lists of characters cut at the first, at the last, or at every
occurrence of a character, which itself is left out.
-/

set_option autoImplicit false

namespace Roster.Text

/-- What stands before and after the first occurrence of a
character. -/
def splitFirst? (c : Char) (cs : List Char) : Option (List Char × List Char) :=
  match cs.span (· ≠ c) with
  | (_, []) => none
  | (before, _ :: after) => some (before, after)

/-- What stands before and after the last occurrence of a character. -/
def splitLast? (c : Char) (cs : List Char) : Option (List Char × List Char) :=
  (splitFirst? c cs.reverse).map fun p => (p.2.reverse, p.1.reverse)

/-- What stands between the occurrences of a character. -/
def splitAll (c : Char) (cs : List Char) : List (List Char) :=
  cs.foldr
    (fun x parts =>
      if x = c then [] :: parts
      else
        match parts with
        | [] => [[x]]
        | part :: rest => (x :: part) :: rest)
    [[]]

end Roster.Text
