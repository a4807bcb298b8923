/-!
Maps on code points that are given by ranges. A map is a search tree over ranges that do not
overlap, each with a list of numbers as its value; a set is a map whose values do not matter.
`ofText` reads the notation in which the tables of this library are written: ranges in ascending
order with blanks between them, numbers in hexadecimal, `low-high` or one code point, and after a
colon the values with plus signs between them.
-/

namespace ContentForms.Unicode

structure Range where
  low : Nat
  high : Nat
  values : List Nat

inductive RangeMap where
  | leaf
  | node (left : RangeMap) (range : Range) (right : RangeMap)

namespace RangeMap

def find? : RangeMap → Nat → Option Range
  | leaf, _ => none
  | node left range right, n =>
      if n < range.low then left.find? n
      else if range.high < n then right.find? n
      else some range

def ranges : RangeMap → List Range
  | leaf => []
  | node left range right => left.ranges ++ range :: right.ranges

def contains (map : RangeMap) (c : Char) : Bool :=
  (map.find? c.toNat).isSome

/-- A balanced tree of the first so many ranges, and the ranges after them. -/
def build (size : Nat) (ranges : List Range) : RangeMap × List Range :=
  if _h : size = 0 then (leaf, ranges)
  else
    let (left, rest) := build (size / 2) ranges
    match rest with
    | [] => (left, [])
    | range :: rest =>
        let (right, rest) := build (size - 1 - size / 2) rest
        (node left range right, rest)
termination_by size
decreasing_by all_goals omega

/-- A table that is being read: the ranges that are complete, the latest first, and the numbers of
the current one. -/
structure Reading where
  done : List Range
  numbers : List Nat
  current : Option Nat
  spans : Bool

def Reading.start : Reading := ⟨[], [], none, false⟩

def rangeOf (spans : Bool) (numbers : List Nat) : Range :=
  match spans, numbers with
  | true, low :: high :: values => ⟨low, high, values⟩
  | _, low :: values => ⟨low, low, values⟩
  | _, [] => ⟨0, 0, []⟩

def Reading.close (r : Reading) : Reading :=
  match r.current with
  | none => r
  | some n => ⟨rangeOf r.spans (n :: r.numbers).reverse :: r.done, [], none, false⟩

def hexValue (c : Char) : Nat :=
  if c.isDigit then c.toNat - 0x30 else c.toNat - 0x37

def Reading.step (r : Reading) (c : Char) : Reading :=
  if c = ' ' || c = '\n' then r.close
  else if c = '-' || c = ':' || c = '+' then
    { r with
      numbers := r.current.toList ++ r.numbers
      current := none
      spans := r.spans || c = '-' }
  else { r with current := some (r.current.getD 0 * 16 + hexValue c) }

/-- The ranges of a table in the notation above. -/
def rangesOf (table : String) : List Range :=
  ((table.foldl Reading.step Reading.start).close).done.reverse

def ofRanges (ranges : List Range) : RangeMap :=
  (build ranges.length ranges).1

def ofText (table : String) : RangeMap :=
  ofRanges (rangesOf table)

end RangeMap

end ContentForms.Unicode
