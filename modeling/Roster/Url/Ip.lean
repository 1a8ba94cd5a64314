import Roster.Text.Hex
import Roster.Text.Split

/-!
# `Roster.Url.Ip`: numeric addresses

An IPv4 address is four decimal numbers below 256 with points between
them, none with a zero in front. An IPv6 address is eight groups of one
to four hexadecimal digits with colons between them; two colons in a
row stand for one or more groups of zero, and an IPv4 address may stand
for the last two groups.
-/

set_option autoImplicit false

namespace Roster.Url

/-- Whether a text is a number of an IPv4 address. -/
def isOctet (cs : List Char) : Bool :=
  !cs.isEmpty && cs.length ≤ 3 && cs.all Char.isDigit
    && (cs.length = 1 || cs.head? ≠ some '0')
    && cs.foldl (fun n c => n * 10 + (c.toNat - 48)) 0 < 256

/-- Whether a text is an IPv4 address. -/
def isIpv4 (cs : List Char) : Bool :=
  let parts := Text.splitAll '.' cs
  parts.length = 4 && parts.all isOctet

/-- Whether a text is a group of an IPv6 address. -/
def isGroup (cs : List Char) : Bool :=
  !cs.isEmpty && cs.length ≤ 4 && cs.all Text.isHexDigit

/-- How many groups a run of them stands for. An IPv4 address at its
end stands for two. -/
def groupCount? : List (List Char) → Option Nat
  | [] => some 0
  | [last] =>
    if isGroup last then some 1 else if isIpv4 last then some 2 else none
  | group :: rest => if isGroup group then (groupCount? rest).map (· + 1) else none

/-- The groups of a text between colons. An empty text has none. -/
def groups (cs : List Char) : List (List Char) :=
  if cs.isEmpty then [] else Text.splitAll ':' cs

/-- What stands before and after the first two colons in a row. -/
def splitGap? : List Char → Option (List Char × List Char)
  | ':' :: ':' :: rest => some ([], rest)
  | c :: rest => (splitGap? rest).map fun p => (c :: p.1, p.2)
  | [] => none

/-- Whether a text is an IPv6 address. -/
def isIpv6 (cs : List Char) : Bool :=
  match splitGap? cs with
  | none => groupCount? (groups cs) = some 8
  | some (front, back) =>
    (groups front).all isGroup
      && (groupCount? (groups back)).any fun n => (groups front).length + n ≤ 7

end Roster.Url
