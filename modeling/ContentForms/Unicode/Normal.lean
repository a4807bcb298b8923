import ContentForms.Unicode.Combining
import ContentForms.Unicode.Decomposition

/-!
The composed normal form of a text (NFC): every character is taken apart into its canonical parts,
marks between two starters are put into the order of their combining classes, and then each mark is
joined to the last starter before it if the two have a composition and nothing stands between them
that blocks it. Korean syllables are taken apart and put together by calculation.
-/

namespace ContentForms.Unicode

/-- The three parts of a Korean syllable are numbered from these on. -/
def syllableBase : Nat := 0xAC00
def leadBase : Nat := 0x1100
def vowelBase : Nat := 0x1161
def tailBase : Nat := 0x11A7

/-- How many leads and vowels there are; tails are one more than there are characters for, since the
first stands for none. -/
def leadCount : Nat := 19
def vowelCount : Nat := 21
def tailCount : Nat := 28

def isSyllable (n : Nat) : Bool :=
  syllableBase ≤ n && n < syllableBase + leadCount * vowelCount * tailCount

def takeApart (c : Char) : List Char :=
  let n := c.toNat
  if n < 0xC0 then [c]
  else if isSyllable n then
    let i := n - syllableBase
    let tail := i % tailCount
    let parts := [leadBase + i / (vowelCount * tailCount), vowelBase + i / tailCount % vowelCount]
    (if tail = 0 then parts else parts ++ [tailBase + tail]).map Char.ofNat
  else match decompositions.find? n with
    | some range => range.values.map Char.ofNat
    | none => [c]

/-- Takes all characters apart. No chain of decompositions has more than four steps. -/
def decompose (cs : List Char) : List Char :=
  (((cs.flatMap takeApart).flatMap takeApart).flatMap takeApart).flatMap takeApart

/-- Adds a character to a text that is given backwards, before the marks of greater class that it
ends in. -/
def insertMark (reversed : List Char) (c : Char) : List Char :=
  match reversed with
  | [] => [c]
  | d :: rest =>
      if combiningClass c ≠ 0 ∧ combiningClass c < combiningClass d then d :: insertMark rest c
      else c :: d :: rest

def orderMarks (cs : List Char) : List Char :=
  (cs.foldl insertMark []).reverse

def pairKey (first second : Nat) : Nat :=
  first * 0x200000 + second

def compositions : RangeMap :=
  .ofRanges ((decompositions.ranges.filterMap fun range =>
    match range.values with
    | [first, second] =>
        if (compositionExclusions.find? range.low).isSome then none
        else
          let key := pairKey first second
          some ⟨key, key, [range.low]⟩
    | _ => none).mergeSort fun a b => a.low ≤ b.low)

def compose? (first second : Char) : Option Char :=
  let m := first.toNat
  let n := second.toNat
  if leadBase ≤ m && m < leadBase + leadCount && vowelBase ≤ n && n < vowelBase + vowelCount then
    some (Char.ofNat (syllableBase + ((m - leadBase) * vowelCount + (n - vowelBase)) * tailCount))
  else if isSyllable m && (m - syllableBase) % tailCount == 0 && tailBase < n &&
      n < tailBase + tailCount then
    some (Char.ofNat (m + (n - tailBase)))
  else match compositions.find? (pairKey m n) with
    | some ⟨_, _, [composite]⟩ => some (Char.ofNat composite)
    | _ => none

/-- A text that is being composed: what is settled, backwards, then the last starter, then the marks
after it that were not joined to it, backwards. -/
structure Composing where
  settled : List Char
  starter : Option Char
  marks : List Char

namespace Composing

def reversed (s : Composing) : List Char :=
  s.marks ++ s.starter.toList ++ s.settled

/-- Whether the marks after the starter keep a character from being joined to it. -/
def blocks (s : Composing) (c : Char) : Bool :=
  match s.marks with
  | [] => false
  | last :: _ => combiningClass c ≤ combiningClass last

def step (s : Composing) (c : Char) : Composing :=
  let joined := if s.blocks c then none else s.starter.bind (compose? · c)
  match joined with
  | some composite => { s with starter := some composite }
  | none =>
      if combiningClass c = 0 then ⟨s.reversed, some c, []⟩
      else { s with marks := c :: s.marks }

end Composing

def compose (cs : List Char) : List Char :=
  (cs.foldl Composing.step ⟨[], none, []⟩).reversed.reverse

/-- The composed normal form; a text of ASCII characters is its own. -/
def nfc (cs : List Char) : List Char :=
  if cs.all (·.toNat < 0x80) then cs else compose (orderMarks (decompose cs))

end ContentForms.Unicode
