import Roster.Documents.Document
import Roster.Text.Utf8

/-!
# `Roster.Documents.Order`: which value comes first

Values of different kinds are ordered by their kinds: nothing first, then
numbers, texts, documents, lists, identifiers, and the two truth values.
Numbers are ordered by size, texts by their bytes, identifiers by their
numbers. Documents and lists are compared value by value, and the shorter
one comes first if it ends before a difference; in a document the kind of
a value counts before its name.

The order is that of a key, a list of numbers (`Value.key`). Zero ends a
text, a list or a document, so that it comes before anything that goes on.
-/

set_option autoImplicit false

namespace Roster.Documents

/-- What values are ordered by. -/
abbrev Key := List Rat

/-- Whether a key is another one or comes before it: at the first place where
they differ it has the smaller number, or it ends there. -/
def Key.upTo : Key → Key → Bool
  | [], _ => true
  | _ :: _, [] => false
  | x :: a, y :: b => x < y || x = y && upTo a b

/-- The key of a text: its bytes, and an end. -/
def textKey (s : String) : Key :=
  (Text.utf8 s).map (fun b => ((b.toNat + 1 : Nat) : Rat)) ++ [0]

/-- The place of a kind of value among the others. -/
def Value.rank : Value → Rat
  | .null => 1
  | .number .. => 2
  | .text _ => 3
  | .document _ => 4
  | .list _ => 5
  | .identifier _ => 6
  | .boolean _ => 7

mutual

/-- The key of a value among those of its kind. -/
def Value.ownKey : Value → Key
  | .null => []
  | .number mantissa places => [mkRat mantissa (Nat.pow 10 places)]
  | .text s => textKey s
  | .document fields => fieldsKey fields
  | .list items => itemsKey items
  | .identifier number => [(number : Rat)]
  | .boolean b => [if b then 1 else 0]

/-- The key of the values in a document. -/
def fieldsKey : List (String × Value) → Key
  | [] => [0]
  | (name, v) :: rest => v.rank :: textKey name ++ v.ownKey ++ fieldsKey rest

/-- The key of the values in a list. -/
def itemsKey : List Value → Key
  | [] => [0]
  | v :: rest => v.rank :: v.ownKey ++ itemsKey rest

end

/-- The key of a value. -/
def Value.key (v : Value) : Key :=
  v.rank :: v.ownKey

namespace Document

/-- The key of the first value of a name. A document without one is
ordered as if there were nothing under the name. -/
def keyOf (name : String) (d : Document) : Key :=
  ((d.lookup name).getD .null).key

/-- Whether a document may stand before another when they are ordered by
the values of a name. -/
def before (name : String) (a b : Document) : Bool :=
  (a.keyOf name).upTo (b.keyOf name)

/-- Whether a document has each value of a filter under its name. -/
def fits (filter d : Document) : Bool :=
  filter.all fun (name, value) => d.keyOf name = value.key

end Document

end Roster.Documents
