import Roster.Log.Pattern.Escape
import Roster.Log.Pattern.Nesting
import Roster.Text.Split

/-!
# `Roster.Log.Pattern.Bracket`: bracketed classes in a pattern

A bracketed class holds characters, ranges of them, escapes, classes by
name such as `[:digit:]`, and other bracketed classes. Two classes are
combined by a doubled sign: `&&` keeps what both hold, `--` what only
the first holds, and `~~` what just one of them holds. A bracket that
closes a class is a character where it comes first, and so are the
hyphens there.
-/

set_option autoImplicit false

namespace Roster.Pattern

/-- A bracketed class that is still open. -/
structure Bracket where
  /-- The depths of what it holds since the last doubled sign. -/
  parts : List Nat
  /-- The depth of what stands before that sign. -/
  left : Option Nat
deriving DecidableEq, Repr

namespace Bracket

/-- The classes that have a name between colons. -/
def names : List String :=
  ["alnum", "alpha", "ascii", "blank", "cntrl", "digit", "graph", "lower", "print", "punct",
   "space", "upper", "word", "xdigit"]

/-- The class with one more part. -/
def add (b : Bracket) (depth : Nat) : Bracket :=
  { b with parts := depth :: b.parts }

/-- The depth of what the class holds. -/
def depth (b : Bracket) : Nat :=
  let right := together b.parts
  match b.left with
  | none => right
  | some left => max left right + 1

/-- The class after a doubled sign. -/
def combine (b : Bracket) : Bracket :=
  ⟨[], some b.depth⟩

/-- The hyphens at the start of a class, and what follows them. -/
def hyphens (f : Flags) : Nat → List Char → List Char × List Char
  | fuel + 1, '-' :: rest =>
    let (front, rest) := hyphens f fuel (f.skip rest)
    ('-' :: front, rest)
  | _, cs => ([], cs)

/-- The class that an opening bracket begins, and what follows its
start. -/
def open? (f : Flags) (cs : List Char) : Option (Bracket × List Char) :=
  let cs := f.skip cs
  let negated := cs.head? = some '^'
  let cs := if negated then f.skip (cs.drop 1) else cs
  let (front, cs) := hyphens f cs.length cs
  let (front, cs) :=
    if front.isEmpty && cs.head? = some ']' then ([']'], f.skip (cs.drop 1)) else (front, cs)
  if negated && !f.unicode then none
  else if front.all fun c => (Atom.literal c false).isSupportedInBracket f then
    some (⟨front.map fun _ => 0, none⟩, cs)
  else none

/-- Whether a class by name is negated, and what follows its closing
bracket. -/
def named? (cs : List Char) : Option (Bool × List Char) :=
  match cs with
  | ':' :: rest =>
    let (negated, rest) := match rest with
      | '^' :: rest => (true, rest)
      | _ => (false, rest)
    match rest.span (· ≠ ':') with
    | (name, ':' :: ']' :: rest) =>
      if names.contains (String.ofList name) then some (negated, rest) else none
    | _ => none
  | _ => none

/-- Whether a class by name can stand in a bracketed class. -/
def isNamedSupported (f : Flags) (negated : Bool) : Bool :=
  if f.unicode then !f.ignoresCase else !negated

/-- A character or an escape that can stand in a class, and what follows
it. -/
def atom? (f : Flags) (cs : List Char) : Option (Atom × List Char) :=
  let read := match cs with
    | [] => none
    | '\\' :: rest => Escape.read? f rest
    | c :: rest => some (.literal c false, rest)
  read.filter fun p => p.1.isSupportedInBracket f

/-- The character that tells what a hyphen before it means. One `#` is
passed over in a spaced pattern, but not the comment that it begins. -/
def signAfter (f : Flags) (cs : List Char) : Option Char :=
  if f.spaced then
    let cs := cs.dropWhile Text.isWhiteSpace
    if cs.head? = some '#' then ((cs.drop 1).dropWhile Text.isWhiteSpace).head? else cs.head?
  else cs.head?

/-- What follows an atom or a range. The ends of a range are characters,
the first one not after the second. -/
def afterItem? (f : Flags) (cs : List Char) : Option (List Char) :=
  match atom? f cs with
  | none => none
  | some (start, rest) =>
    match f.skip rest with
    | '-' :: after =>
      if signAfter f after = some ']' || signAfter f after = some '-' then some ('-' :: after)
      else
        match start, atom? f (f.skip after) with
        | .literal a _, some (.literal b _, rest) => if a ≤ b then some rest else none
        | _, _ => none
    | rest => some rest

end Bracket

end Roster.Pattern
