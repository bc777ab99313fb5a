import Telemetry.Text.Parts

/-!
Paths as lists of segments, which both kinds of slash part. A segment `.` stays
where it is and `..` goes back by one; neither is kept, and a path that ends with
one of them ends with a slash.
-/

namespace Telemetry.Http.Path

def isSlash (c : Char) : Bool :=
  c = '/' || c = '\\'

/-- A segment with its escaped full stops read. -/
def dots : List Char → List Char
  | '%' :: '2' :: e :: rest =>
    if e = 'e' ∨ e = 'E' then '.' :: dots rest else '%' :: '2' :: e :: dots rest
  | c :: rest => c :: dots rest
  | [] => []

/-- Divides a path at its slashes. -/
def segments (path : List Char) : List (List Char) :=
  Parts.split isSlash path

/-- A letter with a colon or a bar names a drive, and `..` does not leave it. -/
def isDrive : List Char → Bool
  | [letter, mark] => letter.isAlpha && (mark = ':' || mark = '|')
  | _ => false

/-- One segment back, unless the last one kept is a drive. -/
def back (kept : List (List Char)) : List (List Char) :=
  if kept.getLast?.any isDrive then kept else kept.dropLast

/-- The segments that are kept, after those in `kept`. -/
def walk (kept : List (List Char)) : List (List Char) → List (List Char)
  | [] => kept
  | segment :: rest =>
    let moveTo (kept : List (List Char)) : List (List Char) :=
      if rest.isEmpty then kept ++ [[]] else kept
    if dots segment = ['.'] then walk (moveTo kept) rest
    else if dots segment = ['.', '.'] then walk (moveTo (back kept)) rest
    else walk (kept ++ [segment]) rest

end Telemetry.Http.Path
