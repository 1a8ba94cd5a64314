import Roster.Log.Pattern.Bracket
import Roster.Text.Fold
import Roster.Text.Numeric

/-!
# `Roster.Log.Pattern`: well-formed patterns

A pattern is a regular expression, or a number, which stands for itself.
A regular expression is read from left to right. What is open at a place
in it, a group or a bracketed class, has to be closed before the end,
and a sign that repeats something has to follow something. Groups,
classes, repetitions and the like nest up to some depth. A count of
repetitions in braces, a look around and a reference to a group are not
supported.
-/

set_option autoImplicit false

namespace Roster.Pattern

/-- A part of a regular expression. Flags are a part that cannot be
repeated. -/
structure Part where
  depth : Nat
  repeatable : Bool
deriving DecidableEq, Repr

/-- A row of parts with its alternatives, up to a place in it. -/
structure Row where
  /-- The parts since the last bar, the last one first. -/
  parts : List Part
  /-- The depths of the alternatives before that bar. -/
  alternatives : List Nat
deriving DecidableEq, Repr

namespace Row

/-- A row of which nothing was read. -/
def empty : Row :=
  ⟨[], []⟩

/-- The row with one more part. -/
def add (r : Row) (part : Part) : Row :=
  { r with parts := part :: r.parts }

/-- The row after a bar. -/
def alternate (r : Row) : Row :=
  ⟨[], together (r.parts.map (·.depth)) :: r.alternatives⟩

/-- The row with its last part repeated. -/
def repeated? (r : Row) : Option Row :=
  match r.parts with
  | last :: before =>
    if last.repeatable then some { r with parts := ⟨last.depth + 1, true⟩ :: before } else none
  | [] => none

/-- The depth of the row. -/
def depth (r : Row) : Nat :=
  together r.alternate.alternatives

end Row

/-- What came before a place in a regular expression. -/
structure Progress where
  /-- The innermost row. -/
  row : Row
  /-- The open groups, each by the row around it and the flags there. -/
  groups : List (Row × Flags)
  /-- The open bracketed classes, the innermost one first. -/
  brackets : List Bracket
  flags : Flags
  /-- The names of the groups. -/
  names : List (List Char)

/-- Whether a group's name can hold a character after its first one. -/
def isNameChar (c : Char) : Bool :=
  c = '_' || c = '.' || c = '[' || c = ']' || Text.isAlphanumeric c

/-- Whether a text is the name of a group. -/
def isGroupName : List Char → Bool
  | [] => false
  | c :: rest => (c = '_' || Text.isAlphabetic c) && rest.all isNameChar

namespace Progress

/-- Nothing is before the start. -/
def start : Progress :=
  ⟨.empty, [], [], .initial, []⟩

/-- The progress with one more part. -/
def add (p : Progress) (depth : Nat) : Progress :=
  { p with row := p.row.add ⟨depth, true⟩ }

/-- The progress with one more atom. -/
def addAtom? (p : Progress) (atom : Atom) : Option Progress :=
  if atom.isSupported p.flags then some (p.add 0) else none

/-- The progress in a group that is opened with some flags. -/
def openGroup (p : Progress) (flags : Flags) : Progress :=
  { p with row := .empty, groups := (p.row, p.flags) :: p.groups, flags }

/-- The progress in a group that is opened with a name, and what follows
the name. -/
def openNamed? (p : Progress) (cs : List Char) : Option (Progress × List Char) :=
  (Text.splitFirst? '>' cs).bind fun (name, rest) =>
    if isGroupName name && !p.names.contains name then
      some ({ p.openGroup p.flags with names := name :: p.names }, rest)
    else none

/-- The progress after an opening parenthesis and what belongs to it,
and what follows. -/
def afterParenthesis? (p : Progress) (cs : List Char) : Option (Progress × List Char) :=
  let cs := p.flags.skip cs
  match cs with
  | '?' :: 'P' :: '<' :: rest => p.openNamed? rest
  | '?' :: '<' :: rest => p.openNamed? rest
  | '?' :: rest =>
    let (letters, rest) := rest.span fun c => c ≠ ':' && c ≠ ')'
    let flags := p.flags.change letters
    if !Flags.areLetters letters then none
    else
      match rest with
      | ':' :: rest => some (p.openGroup flags, rest)
      | ')' :: rest =>
        if letters.isEmpty then none
        else some ({ p with row := p.row.add ⟨0, false⟩, flags }, rest)
      | _ => none
  | _ => some (p.openGroup p.flags, cs)

/-- The progress after a closing parenthesis. -/
def closeGroup? (p : Progress) : Option Progress :=
  match p.groups with
  | (row, flags) :: groups =>
    some { p with row := row.add ⟨p.row.depth + 1, true⟩, groups, flags }
  | [] => none

/-- The progress after an opening bracket and what belongs to it, and
what follows. -/
def openBracket? (p : Progress) (cs : List Char) : Option (Progress × List Char) :=
  (Bracket.open? p.flags cs).map fun (bracket, rest) =>
    ({ p with brackets := bracket :: p.brackets }, rest)

/-- The progress after a closing bracket. -/
def closeBracket (p : Progress) : Progress :=
  match p.brackets with
  | inner :: outer :: brackets =>
    { p with brackets := outer.add (inner.depth + 1) :: brackets }
  | [inner] => { p with brackets := [] }.add (inner.depth + 1)
  | [] => p

/-- The progress after the next characters within a bracketed class, and
what follows them. -/
def inBracket? (p : Progress) (bracket : Bracket) (brackets : List Bracket) (c : Char)
    (rest : List Char) : Option (Progress × List Char) :=
  let within (b : Bracket) : Progress := { p with brackets := b :: brackets }
  match c, rest with
  | '[', _ =>
    match Bracket.named? rest with
    | some (negated, rest) =>
      if Bracket.isNamedSupported p.flags negated then some (within (bracket.add 0), rest) else none
    | none => p.openBracket? rest
  | ']', _ => some (p.closeBracket, rest)
  | '&', '&' :: rest | '-', '-' :: rest | '~', '~' :: rest => some (within bracket.combine, rest)
  | _, _ => (Bracket.afterItem? p.flags (c :: rest)).map fun rest => (within (bracket.add 0), rest)

/-- The progress after the next characters outside bracketed classes,
and what follows them. -/
def outside? (p : Progress) (c : Char) (rest : List Char) : Option (Progress × List Char) :=
  match c with
  | '(' => p.afterParenthesis? rest
  | ')' => p.closeGroup?.map fun p => (p, rest)
  | '|' => some ({ p with row := p.row.alternate }, rest)
  | '[' => p.openBracket? rest
  | '?' | '*' | '+' =>
    p.row.repeated?.map fun row =>
      ({ p with row }, if rest.head? = some '?' then rest.drop 1 else rest)
  | '{' => none
  | '.' => if p.flags.unicode then some (p.add 0, rest) else none
  | '^' | '$' => some (p.add 0, rest)
  | '\\' =>
    (Escape.read? p.flags rest).bind fun (atom, rest) => (p.addAtom? atom).map fun p => (p, rest)
  | _ => (p.addAtom? (.literal c false)).map fun p => (p, rest)

/-- The progress after the next characters, and what follows them. -/
def step? (p : Progress) (c : Char) (rest : List Char) : Option (Progress × List Char) :=
  if p.flags.isSpace c then some (p, p.flags.skip (c :: rest))
  else
    match p.brackets with
    | bracket :: brackets => p.inBracket? bracket brackets c rest
    | [] => p.outside? c rest

/-- Whether the rest of a regular expression is well formed. Each step
leaves less to read. -/
def completes (p : Progress) : List Char → Bool
  | [] => p.groups.isEmpty && p.brackets.isEmpty && p.row.depth ≤ greatestDepth
  | c :: rest =>
    match p.step? c rest with
    | some (p, after) => if after.length ≤ rest.length then completes p after else false
    | none => false
termination_by cs => cs.length
decreasing_by simp only [List.length_cons]; omega

end Progress

/-- Whether a text is a regular expression. -/
def isRegular (cs : List Char) : Bool :=
  Progress.start.completes cs

/-- Whether a text is an exponent, or nothing. -/
def isExponent (cs : List Char) : Bool :=
  match cs with
  | [] => true
  | e :: rest =>
    let digits := if rest.head?.any fun c => c = '+' || c = '-' then rest.drop 1 else rest
    (e = 'e' || e = 'E') && !digits.isEmpty && digits.all Char.isDigit

/-- Whether a text is a number without a sign. -/
def isUnsigned (cs : List Char) : Bool :=
  let (whole, rest) := cs.span Char.isDigit
  let (places, rest) := match rest with
    | '.' :: rest => rest.span Char.isDigit
    | _ => ([], rest)
  (!(whole.isEmpty && places.isEmpty) && isExponent rest)
    || ["inf", "infinity", "nan"].contains (String.ofList (cs.map Char.toLower))

/-- Whether a text is a number. -/
def isNumber (cs : List Char) : Bool :=
  isUnsigned (if cs.head?.any fun c => c = '+' || c = '-' then cs.drop 1 else cs)

/-- Whether a text is a pattern. -/
def isWellFormed (cs : List Char) : Bool :=
  isNumber cs || isRegular cs

end Roster.Pattern
