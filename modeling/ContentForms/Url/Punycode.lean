import ContentForms.Text.Split

/-!
Punycode, which writes a label of any characters in ASCII: the ASCII characters of the label come
first, then the others as a sequence of differences in a variable-length notation. Only reading is
needed here, since what matters about a label is whether it is one.

The reader works off its input from the front: `readDelta` takes the digits of one difference,
`decodeFrom` enters one character per difference.
-/

namespace ContentForms.Punycode

def base : Nat := 36
def leastThreshold : Nat := 1
def greatestThreshold : Nat := 26
def skew : Nat := 38
def damp : Nat := 700
def initialBias : Nat := 72
def initialChar : Nat := 128

/-- The numbers of the notation are kept below this bound; a greater one is an error. -/
def bound : Nat := Nat.pow 2 32

/-- The value of a digit: letters of either case first, then the decimal digits. -/
def digit? (c : Char) : Option Nat :=
  if c.isLower then some (c.toNat - 'a'.toNat)
  else if c.isUpper then some (c.toNat - 'A'.toNat)
  else if c.isDigit then some (c.toNat - '0'.toNat + 26)
  else none

def threshold (position bias : Nat) : Nat :=
  if position ≤ bias then leastThreshold
  else if bias + greatestThreshold ≤ position then greatestThreshold
  else position - bias

def adapt (delta count : Nat) (first : Bool) : Nat :=
  let delta := if first then delta / damp else delta / 2
  shrink (delta + delta / count) 0
where
  /-- Divides until the difference fits, and counts the divisions. -/
  shrink (delta k : Nat) : Nat :=
    if h : (base - leastThreshold) * greatestThreshold / 2 < delta then
      shrink (delta / (base - leastThreshold)) (k + base)
    else k + (base - leastThreshold + 1) * delta / (delta + skew)
  termination_by delta
  decreasing_by exact Nat.div_lt_self (by omega) (by decide)

/-- The difference at the front of the input, added to `i`, and the input after it. -/
def readDelta (bias i weight position : Nat) : List Char → Option (Nat × List Char)
  | [] => none
  | c :: rest => do
      let d ← digit? c
      let i := i + d * weight
      let t := threshold position bias
      if bound ≤ i then none
      else if d < t then some (i, rest)
      else
        let weight := weight * (base - t)
        if bound ≤ weight then none else readDelta bias i weight (position + base) rest

theorem readDelta_length {cs rest : List Char} {bias i weight position j : Nat}
    (h : readDelta bias i weight position cs = some (j, rest)) : rest.length < cs.length := by
  induction cs generalizing i weight position with
  | nil => simp [readDelta] at h
  | cons c cs ih =>
      cases hd : digit? c with
      | none => simp [readDelta, hd] at h
      | some d =>
          simp only [readDelta, hd, Option.bind_eq_bind, Option.bind_some] at h
          split at h
          · simp at h
          · split at h
            · simp only [Option.some.injEq, Prod.mk.injEq] at h
              simp [← h.2]
            · split at h
              · simp at h
              · have := ih h
                simp only [List.length_cons]
                omega

def decodeFrom (n i bias : Nat) (first : Bool) (label cs : List Char) : Option (List Char) :=
  match cs with
  | [] => some label
  | c :: rest =>
      match _h : readDelta bias i 1 base (c :: rest) with
      | none => none
      | some (j, rest') =>
          let count := label.length + 1
          let n := n + j / count
          if n.isValidChar then
            let position := j % count
            let label := label.take position ++ Char.ofNat n :: label.drop position
            decodeFrom n (position + 1) (adapt (j - i) count first) false label rest'
          else none
termination_by cs.length
decreasing_by exact readDelta_length _h

/-- The label that a text in the notation stands for. Up to the last hyphen it is the ASCII part,
which is not empty if there is a hyphen. -/
def decode? (cs : List Char) : Option (List Char) :=
  match Text.splitLast? '-' cs with
  | none => decodeFrom initialChar 0 initialBias true [] cs
  | some (head, tail) =>
      if head.isEmpty || !head.all (·.toNat < 0x80) then none
      else decodeFrom initialChar 0 initialBias true head tail

end ContentForms.Punycode
