import Roster.Log.Pattern.Flags
import Roster.Text.Hex

/-!
# `Roster.Log.Pattern.Escape`: escapes in a pattern

A backslash and what follows it stand for one character, for a class of
characters, or for a position between characters. A character that has
a meaning in patterns is escaped by a backslash, as is any other ASCII
character that is no letter and no digit; a code point is named by its
hexadecimal digits. Classes that are named by a property of their
characters are not supported.
-/

set_option autoImplicit false

namespace Roster.Pattern

/-- A part of a pattern that stands for one character or for one
position. -/
inductive Atom where
  /-- A character, perhaps given by the two digits of a byte. -/
  | literal (c : Char) (isByte : Bool)
  /-- A class of ASCII characters, or all others. -/
  | class_ (negated : Bool)
  /-- The start or the end of the text. -/
  | end_
  /-- A position at the edge of a word, or away from one. -/
  | edge
deriving DecidableEq, Repr

namespace Atom

/-- Whether an atom can stand in a pattern. -/
def isSupported (f : Flags) : Atom → Bool
  | .literal c isByte =>
    if f.unicode then !f.ignoresCase else !isByte || c.toNat < 0x80
  | .class_ negated => !f.unicode && !negated
  | .end_ => true
  | .edge => !f.unicode

/-- Whether an atom can stand in a bracketed class. There a character is
one byte unless the pattern matches characters. -/
def isSupportedInBracket (f : Flags) : Atom → Bool
  | .literal c _ => if f.unicode then !f.ignoresCase else c.toNat < 0x80
  | .class_ negated => !f.unicode && !negated
  | .end_ | .edge => false

end Atom

namespace Escape

/-- So many hexadecimal digits, and what follows them. -/
def digits? (f : Flags) : Nat → List Char → Option (List Char × List Char)
  | 0, cs => some ([], cs)
  | _ + 1, [] => none
  | n + 1, c :: rest =>
    if Text.isHexDigit c then
      (digits? f n (f.skip rest)).map fun p => (c :: p.1, p.2)
    else none

/-- The character whose code point has so many digits, and what follows
them. -/
def byCodePoint? (f : Flags) (count : Nat) (rest : List Char) : Option (Atom × List Char) :=
  (digits? f count (f.skip rest)).bind fun (digits, rest) =>
    let code := digits.foldl (fun n c => n * 16 + Text.hexDigitValue c) 0
    if code.isValidChar then some (.literal (Char.ofNat code) (count = 2), rest) else none

/-- The controls that are escaped by a letter. -/
def controls : List (Char × Char) :=
  [('a', '\x07'), ('f', '\x0c'), ('t', '\t'), ('n', '\n'), ('r', '\r'), ('v', '\x0b')]

/-- The classes and positions that are named by a letter or a sign. -/
def named : List (Char × Atom) :=
  [('d', .class_ false), ('s', .class_ false), ('w', .class_ false),
   ('D', .class_ true), ('S', .class_ true), ('W', .class_ true),
   ('A', .end_), ('z', .end_), ('b', .edge), ('B', .edge), ('<', .edge), ('>', .edge)]

/-- The atom that follows a backslash, and what follows it. -/
def read? (f : Flags) : List Char → Option (Atom × List Char)
  | [] => none
  | 'x' :: rest => byCodePoint? f 2 rest
  | 'u' :: rest => byCodePoint? f 4 rest
  | 'U' :: rest => byCodePoint? f 8 rest
  | c :: rest =>
    match named.lookup c, controls.lookup c with
    | some atom, _ => some (atom, rest)
    | none, some control => some (.literal control false, rest)
    | none, none =>
      if c.toNat < 0x80 && !c.isAlphanum then some (.literal c false, rest) else none

end Escape

end Roster.Pattern
