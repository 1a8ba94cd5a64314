import Roster.Url.Domain
import Roster.Url.Ip

/-!
# `Roster.Url.Host`: the host of a URL

A host in brackets is an IPv6 address. Any other host of a URL is taken
as it stands, as long as it holds none of the characters that delimit
the parts of a URL. Only the URLs of the web know more of their hosts:
these are domains in their canonical form, and a domain whose last label
is a number is an IPv4 address, whose numbers may be written in base 8,
10 or 16.
-/

set_option autoImplicit false

namespace Roster.Url

/-- A number in a base that its first characters tell, and nothing for
what is no such number. -/
def ipv4Number? (cs : List Char) : Option Nat :=
  let value (base : Nat) (digits : List Char) : Nat :=
    digits.foldl (fun n c => n * base + Text.hexDigitValue c) 0
  match cs with
  | [] => none
  | '0' :: 'x' :: digits | '0' :: 'X' :: digits =>
    if digits.all Text.isHexDigit then some (value 16 digits) else none
  | '0' :: d :: digits =>
    if (d :: digits).all fun c => '0' ≤ c && c ≤ '7' then some (value 8 (d :: digits))
    else none
  | digits => if digits.all Char.isDigit then some (value 10 digits) else none

/-- The labels of a domain, without the empty one after a last
point. -/
def labels (cs : List Char) : List (List Char) :=
  let parts := Text.splitAll '.' cs
  if 1 < parts.length && parts.getLast? = some [] then parts.dropLast else parts

/-- Whether the last label of a domain is a number. -/
def endsInNumber (cs : List Char) : Bool :=
  (labels cs).getLast?.any fun last =>
    !last.isEmpty && (last.all Char.isDigit || (ipv4Number? last).isSome)

/-- An IPv4 address, of up to four numbers. The last number fills the
places of those that are left out. -/
def ipv4? (cs : List Char) : Option Nat :=
  match (labels cs).mapM ipv4Number? with
  | none => none
  | some numbers =>
    match numbers.reverse with
    | [] => none
    | last :: others =>
      if 3 < others.length || others.any (255 < ·)
          || Nat.pow 256 (4 - others.length) ≤ last then none
      else
        some ((others.reverse.mapIdx fun i n => n * Nat.pow 256 (3 - i)).foldl (· + ·) last)

/-- An IPv4 address with points between its numbers. -/
def dotted (address : Nat) : String :=
  ".".intercalate ([3, 2, 1, 0].map fun i => toString (address / Nat.pow 256 i % 256))

/-- The host of a web URL. -/
def domain? (cs : List Char) : Option String :=
  (Domain.ofText? cs).bind fun name =>
    if endsInNumber name then (ipv4? name).map dotted else some (String.ofList name)

/-- The host of a URL. -/
def host? (web : Bool) (cs : List Char) : Option String :=
  match cs with
  | '[' :: inner =>
    if inner.getLast? = some ']' && isIpv6 inner.dropLast then some (String.ofList cs) else none
  | _ =>
    if web then domain? cs
    else if cs.any isForbidden then none
    else some (String.ofList cs)

end Roster.Url
