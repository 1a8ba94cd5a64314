import Roster.Log.Event
import Roster.Log.Pattern
import Roster.Text.Blank
import Roster.Text.Cut
import Roster.Text.Integer
import Roster.Text.Split
import Roster.Text.Utf8

/-!
# `Roster.Log.Filter`: which events are shown

A filter is a list of directives, written with commas between them. A
directive is a level (`debug`), the start of a source's name
(`employees`), which lets all its events through, or both
(`employees=debug`). Between the two it can ask in brackets for a span
and for a field: `employees[span{field=value}]=debug`.

Of the directives that fit an event, the most specific one decides: the
one with the longest name, and of those with one name the one that asks
for a field. Of two that say the same, the later one counts. An event is
shown if its level matters at least as much as the directive's.

No event here lies in a span, and each has one field, its message. So a
directive that asks for a span or for a value lets nothing through, and
one that asks for a field fits only if that is the message.

A filter without directives shows errors only. A filter that is not
given, or that cannot be read, shows everything from `info` up.
-/

set_option autoImplicit false

namespace Roster

/-- A rule for events: the start of the source's name, the field that
the event must have, and the greatest rank that is let through. -/
structure Directive where
  start : String
  field : Option String
  rank : Nat
deriving DecidableEq, Repr

/-- The directives of a filter, in their order. -/
structure Filter where
  directives : List Directive
deriving DecidableEq, Repr

namespace Filter

open Text (splitFirst? splitAll byteCount cutAt? trimmed)

/-- The rank that lets everything through. -/
def everything : Nat :=
  Level.trace.rank

/-- The names of the ranks. -/
def rankNames : List (String × Nat) :=
  [("off", 0), ("error", 1), ("warn", 2), ("info", 3), ("debug", 4), ("trace", 5)]

/-- The rank that a text names, by its name in letters of either case or
by its number. -/
def rank? (cs : List Char) : Option Nat :=
  match rankNames.lookup (String.ofList (cs.map Char.toLower)) with
  | some rank => some rank
  | none => Text.natural? everything cs

/-- The rank of a directive, from what follows its equals sign. -/
def rankAfter? (cs : List Char) : Option Nat :=
  if cs.isEmpty then some everything else rank? cs

/-- Whether a source's name can start with a character. -/
def isNameStart (c : Char) : Bool :=
  c = '-' || c = ':' || c = '_' || Text.isAlphanumeric c

/-- A place in a directive. The directive is scanned without the white
space around it, but the places found there are counted from the start
of the text, white space included. -/
structure Place where
  whole : List Char
  /-- The number of bytes before the place. -/
  position : Nat
  /-- What is still to be scanned. -/
  rest : List Char

namespace Place

/-- The place after some characters. -/
def skip (p : Place) (cs : List Char) : Place :=
  { p with position := p.position + byteCount cs, rest := p.rest.drop cs.length }

/-- The place before the first of some characters, or at the end. -/
def upTo (p : Place) (stop : List Char) : Place :=
  p.skip (p.rest.takeWhile fun c => !stop.contains c)

/-- The place after one character, if that is the next one. -/
def past? (p : Place) (c : Char) : Option Place :=
  match p.rest with
  | next :: _ => if next = c then some (p.skip [c]) else none
  | [] => none

/-- The text between two places. -/
def between? (p q : Place) : Option (List Char) := do
  let (_, after) ← cutAt? p.position p.whole
  let (inner, _) ← cutAt? (q.position - p.position) after
  return inner

/-- The text after a place. -/
def after? (p : Place) : Option (List Char) :=
  (cutAt? p.position p.whole).map (·.2)

/-- The rank of a directive whose name and brackets end at a place. -/
def rank? (p : Place) : Option Nat :=
  if p.rest.isEmpty then some everything
  else (p.past? '=').bind fun p => p.after?.bind rankAfter?

end Place

/-- The field that a directive asks for, and whether it asks for a value
of it. -/
def field? (cs : List Char) : Option (String × Bool) :=
  match splitAll '=' cs with
  | name :: value :: _ =>
    if Pattern.isWellFormed value then some (String.ofList name, true) else none
  | _ => if cs.isEmpty then none else some (String.ofList cs, false)

/-- A directive from its name and from the place after its bracket. The
inner answer is missing for a directive that can fit no event. -/
def inBrackets? (start : List Char) (p : Place) : Option (Option Directive) := do
  let spanEnd := p.upTo [']', '\x7b']
  let span ← p.between? spanEnd
  match spanEnd.past? ']' with
  | some p =>
    let _ ← p.rank?
    return none
  | none =>
    let p ← spanEnd.past? '\x7b'
    let fieldEnd := p.upTo ['\x7d']
    let (name, hasValue) ← (← p.between? fieldEnd) |> field?
    let p ← (← fieldEnd.past? '\x7d').past? ']'
    let rank ← p.rank?
    return if span.isEmpty && !hasValue then some ⟨String.ofList start, some name, rank⟩ else none

/-- A directive. The inner answer is missing for one that can fit no
event. -/
def directive? (cs : List Char) : Option (Option Directive) := do
  let p : Place := ⟨cs, 0, trimmed cs⟩
  match p.past? '[' with
  | some p => inBrackets? [] p
  | none =>
    if !p.rest.head?.any isNameStart then none
    else
      let nameEnd := p.upTo ['=', '[']
      if nameEnd.rest.isEmpty then
        return some <| match rank? cs with
          | some rank => ⟨"", none, rank⟩
          | none => ⟨String.ofList cs, none, everything⟩
      else
        let start ← p.between? nameEnd
        match nameEnd.past? '[' with
        | some p => inBrackets? start p
        | none => return some ⟨String.ofList start, none, ← nameEnd.rank?⟩

/-- The filter that shows errors only. -/
def errorsOnly : Filter :=
  ⟨[⟨"", none, Level.error.rank⟩]⟩

/-- The filter in use when none is given. -/
def default : Filter :=
  ⟨[⟨"", none, Level.info.rank⟩]⟩

/-- The filter that a text describes. -/
def ofText? (text : String) : Option Filter :=
  let parts := (splitAll ',' text.toList).filter fun part => !part.isEmpty
  match parts.mapM directive? with
  | none => none
  | some [] => some errorsOnly
  | some directives => some ⟨directives.filterMap id⟩

/-- The filter for the bytes of an environment variable that may be
unset. -/
def ofEnvironment (value : Option (List UInt8)) : Filter :=
  ((value.bind Text.ofUtf8?).bind ofText?).getD default

end Filter

namespace Directive

/-- The one field that events have. -/
def messageField : String :=
  "message"

/-- Whether a directive fits the events of a source. -/
def fits (d : Directive) (source : String) : Bool :=
  d.start.toList.isPrefixOf source.toList && d.field.all (· = messageField)

/-- Whether a directive is at least as specific as another one. -/
def isAsSpecificAs (d other : Directive) : Bool :=
  other.start.utf8ByteSize < d.start.utf8ByteSize
    || (other.start.utf8ByteSize = d.start.utf8ByteSize
      && (d.field.isSome || other.field.isNone))

end Directive

namespace Filter

/-- The directive that decides about a source, `best` being the one
found so far. -/
def decide? (source : String) (best : Option Directive) : List Directive → Option Directive
  | [] => best
  | d :: rest =>
    decide? source (if d.fits source && best.all d.isAsSpecificAs then some d else best) rest

/-- Whether an event is shown. -/
def shows (f : Filter) (e : Event) : Bool :=
  (decide? e.source.name none f.directives).any fun d => e.level.rank ≤ d.rank

end Filter

end Roster
