/-!
# `Roster.Scheme`: the kind of store that a URL names

The scheme of a URL is the text before the first `://`. A text without
that separator has the empty scheme. Schemes are compared exactly, so
an upper-case letter or a blank makes another scheme.
-/

set_option autoImplicit false

namespace Roster

/-- The separator after a scheme. -/
def schemeSeparator : List Char :=
  [':', '/', '/']

/-- What stands before the first separator, if there is one. -/
def beforeSeparator? : List Char → Option (List Char)
  | [] => none
  | c :: rest =>
    if schemeSeparator.isPrefixOf (c :: rest) then some []
    else (beforeSeparator? rest).map (c :: ·)

/-- The scheme of a URL. -/
def scheme (url : String) : String :=
  String.ofList ((beforeSeparator? url.toList).getD [])

/-- The kinds of store that a URL can name. -/
inductive StoreKind where
  | documents
  | table
  | memory
deriving DecidableEq, Repr

/-- The kind of store with a scheme. -/
def StoreKind.ofScheme? (scheme : String) : Option StoreKind :=
  if scheme = "mongodb" || scheme = "mongodb+srv" then some .documents
  else if scheme = "postgres" || scheme = "postgresql" then some .table
  else if scheme = "memory" then some .memory
  else none

end Roster
