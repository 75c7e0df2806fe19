import EquipmentBooking.Url.Percent

/-! Paths as lists of segments. Segments of one or two dots, plain or encoded, are steps. A step at the
end of a path leaves an empty segment there. -/
namespace EquipmentBooking.Url

def dotCount? : List Char → Option Nat
  | [] => some 0
  | '.' :: rest => (dotCount? rest).map (· + 1)
  | '%' :: '2' :: 'e' :: rest => (dotCount? rest).map (· + 1)
  | '%' :: '2' :: 'E' :: rest => (dotCount? rest).map (· + 1)
  | _ :: _ => none

def isSingleDot (segment : List Char) : Bool :=
  dotCount? segment == some 1

def isDoubleDot (segment : List Char) : Bool :=
  dotCount? segment == some 2

/-- The pieces of a text between slashes. There is always at least one piece. -/
def splitSegments (isSlash : Char → Bool) : List Char → List (List Char)
  | [] => [[]]
  | c :: rest =>
    if isSlash c then [] :: splitSegments isSlash rest
    else
      match splitSegments isSlash rest with
      | [] => [[c]]
      | segment :: segments => (c :: segment) :: segments

/-- Tabs and line breaks, which mean nothing in a URL. -/
def isBreak (c : Char) : Bool :=
  c == '\t' || c == '\n' || c == '\r'

def unbroken (s : List Char) : List Char :=
  s.filter fun c => !isBreak c

def writeSegment (s : List Char) : List Char :=
  percentEncode pathSet (unbroken s)

/-- Cut a text behind its first `n` characters, breaks aside, if a break stands there and characters
behind it. -/
def cutAtBreak? : Nat → List Char → Option (List Char × List Char)
  | _, [] => none
  | 0, c :: rest => if isBreak c && !(unbroken rest).isEmpty then some ([], rest) else none
  | n + 1, c :: rest =>
    if isBreak c then cutAtBreak? (n + 1) rest
    else (cutAtBreak? n rest).map fun (front, behind) => (c :: front, behind)

def isDrive (segment : List Char) : Bool :=
  match segment with
  | [a, b] => a.isAlpha && (b == ':' || b == '|')
  | _ => false

/-- A segment that is a drive letter, alone or with a backslash behind it. No path goes up from such a
segment, whatever its scheme. -/
def isFloor (segment : List Char) : Bool :=
  isDrive (segment.take 2) && (segment.drop 2).head?.all (· == '\\')

def shorten : List (List Char) → List (List Char)
  | [] => []
  | last :: above => if isFloor last then last :: above else above

/-- A text cut behind a drive letter with a colon, which ends at character `n`. A break parts such a
letter from what follows. -/
def cutDrive? (n : Nat) (s : List Char) : Option (List Char × List Char) :=
  (cutAtBreak? n s).filter fun (front, _) =>
    isDrive (front.drop (n - 2)) && front.getLast? == some ':' && writeSegment front == front

/-- A walk along segments: those passed so far in written form, the last one first, and whether the walk
began on a drive. -/
structure Walk where
  above : List (List Char) := []
  onDrive : Bool := false

namespace Walk

/-- Enter a segment that is no step. `drives` says whether the path may begin with a drive, which is
written with a colon. -/
def enter (drives : Bool) (w : Walk) (s : List Char) : Walk :=
  let segment := writeSegment s
  if drives && w.above.isEmpty then
    match cutDrive? 2 s with
    | some (drive, rest) => { w with above := [writeSegment rest, drive] }
    | none =>
      if isDrive segment then ⟨[segment.take 1 ++ [':']], true⟩ else { w with above := [segment] }
  else { w with above := segment :: w.above }

def pass (drives : Bool) (w : Walk) (s : List Char) : Walk :=
  if isDoubleDot (writeSegment s) then { w with above := shorten w.above }
  else if isSingleDot (writeSegment s) then w
  else w.enter drives s

/-- Pass the last segment. A step leaves an empty segment behind. -/
def finish (drives : Bool) (w : Walk) (s : List Char) : Walk :=
  let passed := w.pass drives s
  if isDoubleDot (writeSegment s) || isSingleDot (writeSegment s) then
    { passed with above := [] :: passed.above }
  else passed

def along (drives : Bool) : Walk → List (List Char) → Walk
  | w, [] => w
  | w, [last] => w.finish drives last
  | w, s :: next :: rest => along drives (w.pass drives s) (next :: rest)

def segments (w : Walk) : List (List Char) :=
  w.above.reverse

end Walk

def enterLoose (s : List Char) : List (List Char) :=
  match cutDrive? 3 s with
  | some (front, rest) => [front, writeSegment rest]
  | none => [writeSegment s]

/-- Walk along segments that no slash stands in front of. Steps at the beginning lead nowhere, and there
is no way up from the first segment that is none. An empty one is a slash like any other. -/
def walkLoose : List (List Char) → List (List Char)
  | [] => [[]]
  | [last] =>
    if isDoubleDot (writeSegment last) || isSingleDot (writeSegment last) then [[]]
    else enterLoose last
  | s :: next :: rest =>
    if isDoubleDot (writeSegment s) || isSingleDot (writeSegment s) then walkLoose (next :: rest)
    else if (writeSegment s).isEmpty then (Walk.along true {} (next :: rest)).segments
    else
      let first := enterLoose s
      first.take 1 ++ (Walk.along false { above := (first.drop 1).reverse } (next :: rest)).segments

def joinSegments (segments : List (List Char)) : List Char :=
  segments.flatMap fun segment => '/' :: segment

end EquipmentBooking.Url
