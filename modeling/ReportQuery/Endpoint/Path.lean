/-
# Paths in a URL

A path is a list of segments with slashes between them.  A segment `.` means
nothing, and a segment `..` takes the segment before it away, unless that begins with
the name of a drive: a letter with a colon or a bar, up to the end or a backslash.
Where a segment of dots ends the path, an empty segment takes its place.  The dots may
be escaped.
-/

import ReportQuery.Text.Cut

namespace ReportQuery
namespace Endpoint

/-- What a segment of a path means. -/
inductive Step where
  | stay
  | up
  | into (segment : List Char)
deriving DecidableEq, Repr

/-- A segment with its escaped dots in plain form. -/
def plainDots : List Char → List Char
  | '%' :: '2' :: 'e' :: cs | '%' :: '2' :: 'E' :: cs => '.' :: plainDots cs
  | c :: cs => c :: plainDots cs
  | [] => []

/-- What a segment means. -/
def Step.ofSegment (segment : List Char) : Step :=
  match plainDots segment with
  | ['.'] => .stay
  | ['.', '.'] => .up
  | _ => .into segment

/-- Whether a segment begins with the name of a drive. -/
def beginsWithDrive : List Char → Bool
  | c :: mark :: cs => c.isAlpha && (mark == ':' || mark == '|') && cs.head?.all (· == '\\')
  | _ => false

/-- The segments of a path without its last one, which stays if it begins with the name
of a drive.  The segments are in reverse order. -/
def leave : List (List Char) → List (List Char)
  | [] => []
  | segment :: outer => if beginsWithDrive segment then segment :: outer else outer

/-- Follows segments from within others, which are in reverse order. -/
def follow (outer : List (List Char)) : List (List Char) → List (List Char)
  | [] => outer.reverse
  | segment :: more =>
    let ending := if more.isEmpty then [[]] else []
    match Step.ofSegment segment with
    | .stay => follow (ending ++ outer) more
    | .up => follow (ending ++ leave outer) more
    | .into segment => follow (segment :: outer) more

/-- A path without the segments that mean something, and without the slashes in
front of it. -/
def plainPath (cs : List Char) : List Char :=
  let segments := follow [] (Text.parts '/' cs)
  (['/'].intercalate segments).dropWhile (· == '/')

example : plainPath "/a/./b/../%2e%2E/c".toList = ['c'] := by decide +kernel

example : plainPath "//a/b/..".toList = ['a', '/'] := by decide +kernel

example : plainPath "/c:\\a/../b".toList = "c:\\a/b".toList := by decide +kernel

end Endpoint
end ReportQuery
