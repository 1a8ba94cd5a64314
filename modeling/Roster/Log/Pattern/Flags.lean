import Roster.Text.Blank

/-!
# `Roster.Log.Pattern.Flags`: how a pattern is read

Flags in a pattern change how what follows is read, up to the end of the
group that they stand in. Three of them matter for what is well formed.

A pattern matches texts, character by character; without `unicode` it
matches bytes, and then it must not match a byte that is no character of
its own. The case of letters can be ignored for bytes only: which
letters differ in nothing but their case is known for ASCII alone. In a
spaced pattern white space stands for nothing, and what follows a `#` on
its line is a comment.
-/

set_option autoImplicit false

namespace Roster.Pattern

/-- The flags that matter for what is well formed. -/
structure Flags where
  ignoresCase : Bool
  unicode : Bool
  spaced : Bool
deriving DecidableEq, Repr

namespace Flags

/-- The flags at the start of a pattern. -/
def initial : Flags :=
  ⟨false, true, false⟩

/-- The letters of all flags. -/
def letters : List Char :=
  ['i', 'm', 's', 'U', 'u', 'x', 'R']

/-- Whether some letters can be given as flags: none comes twice, and
some follow the sign that turns them off, if it is there. -/
def areLetters (cs : List Char) : Bool :=
  cs.all (fun c => c = '-' || letters.contains c) && cs.Nodup && cs.getLast? ≠ some '-'

/-- The flags after a change by some letters. Those after the sign are
turned off. -/
def change (f : Flags) (cs : List Char) : Flags :=
  let (on, off) := cs.span (· ≠ '-')
  let now (letter : Char) (before : Bool) : Bool :=
    (before || on.contains letter) && !off.contains letter
  ⟨now 'i' f.ignoresCase, now 'u' f.unicode, now 'x' f.spaced⟩

/-- What follows white space and comments, `inComment` being whether a
comment has begun. -/
def afterSpace (inComment : Bool) : List Char → List Char
  | [] => []
  | c :: rest =>
    if inComment then afterSpace (c ≠ '\n') rest
    else if Text.isWhiteSpace c then afterSpace false rest
    else if c = '#' then afterSpace true rest
    else c :: rest

/-- What is to be read next. -/
def skip (f : Flags) (cs : List Char) : List Char :=
  if f.spaced then afterSpace false cs else cs

/-- Whether a character stands for nothing, alone or with those that
follow it. -/
def isSpace (f : Flags) (c : Char) : Bool :=
  f.spaced && (Text.isWhiteSpace c || c = '#')

end Flags

end Roster.Pattern
