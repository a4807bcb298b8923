/-!
Finite numbers of the binary64 format, without machine arithmetic. The exponent and fraction
fields are read as one natural number, so the next larger magnitude is the next number, a
magnitude below `2 ^ 52` is subnormal, and every finite value has exactly one representation per
sign.

`ofRatio` is the only way in: it rounds a quotient of natural numbers to the nearest representable
magnitude, ties going to the even neighbour. With the scale `k` chosen so that the rounded
quotient `m` has at most fifty-three bits, the magnitude is `(k + 1074) * 2 ^ 52 + m` for normal
and subnormal results alike, and a carry out of `m` lands in the exponent field by itself.
-/

namespace ContentForms

/-- The first magnitude that is not finite. -/
def Binary64.limit : Nat := 2047 * Nat.pow 2 52

structure Binary64 where
  negative : Bool
  /-- The exponent field times `2 ^ 52` plus the fraction field. -/
  magnitude : Nat
  finite : magnitude < Binary64.limit
  deriving DecidableEq

namespace Binary64

def zero (negative : Bool) : Binary64 :=
  ⟨negative, 0, by decide⟩

def isZero (x : Binary64) : Bool :=
  x.magnitude == 0

/-- The integer `m` of the absolute value `m * 2 ^ scale`. -/
def significand (x : Binary64) : Nat :=
  if x.magnitude < Nat.pow 2 52 then x.magnitude else Nat.pow 2 52 + x.magnitude % Nat.pow 2 52

def scale (x : Binary64) : Int :=
  if x.magnitude < Nat.pow 2 52 then -1074 else (x.magnitude / Nat.pow 2 52 : Nat) - 1075

/-- The quotient rounded to the nearest integer, a half going to the even one. -/
def roundHalfEven (num den : Nat) : Nat :=
  let q := num / den
  let r := num % den
  if 2 * r < den then q else if den < 2 * r then q + 1 else q + q % 2

/-- The nearest magnitude to a quotient, if that is finite. -/
def ofRatio (negative : Bool) (num den : Nat) : Option Binary64 :=
  if num = 0 then some (zero negative)
  else
    let estimate : Int := (Nat.log2 num : Int) - Nat.log2 den
    let high :=
      if num * Nat.pow 2 (-estimate).toNat < den * Nat.pow 2 estimate.toNat then estimate - 1
      else estimate
    let k := max (high - 52) (-1074)
    let m := roundHalfEven (num * Nat.pow 2 (-k).toNat) (den * Nat.pow 2 k.toNat)
    let magnitude := (k + 1074).toNat * Nat.pow 2 52 + m
    if h : magnitude < limit then some ⟨negative, magnitude, h⟩ else none

def ratio (x : Binary64) : Nat × Nat :=
  (x.significand * Nat.pow 2 x.scale.toNat, Nat.pow 2 (-x.scale).toNat)

def toInt? (x : Binary64) : Option Int :=
  let (num, den) := x.ratio
  if num % den = 0 then
    some (if x.negative then -((num / den : Nat) : Int) else (num / den : Nat))
  else none

end Binary64

end ContentForms
