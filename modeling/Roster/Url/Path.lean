import Roster.Text.Split

/-!
# `Roster.Url.Path`: the path of a URL

A path is a list of segments with a slash before each. A segment of one
dot stands for nothing, and one of two dots takes back the segment
before it; either dot may be percent-encoded. Where such a segment is
the last, the path ends in a slash.
-/

set_option autoImplicit false

namespace Roster.Url

/-- A segment with its encoded dots decoded. -/
def plainDots : List Char → List Char
  | '%' :: '2' :: 'e' :: rest | '%' :: '2' :: 'E' :: rest => '.' :: plainDots rest
  | c :: rest => c :: plainDots rest
  | [] => []

/-- The segments that remain, `done` being those before, the last of
them first. -/
def resolve (done : List (List Char)) : List (List Char) → List (List Char)
  | [] => done.reverse
  | segment :: rest =>
    if plainDots segment = ['.', '.'] then
      if rest.isEmpty then ([] :: done.drop 1).reverse else resolve (done.drop 1) rest
    else if plainDots segment = ['.'] then
      if rest.isEmpty then ([] :: done).reverse else resolve done rest
    else resolve (segment :: done) rest

/-- A path from what is written after its first slash. -/
def pathOf (cs : List Char) : List Char :=
  (resolve [] (Text.splitAll '/' cs)).flatMap ('/' :: ·)

end Roster.Url
