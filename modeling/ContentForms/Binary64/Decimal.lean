import ContentForms.Binary64.Basic
import ContentForms.Text.Digits

/-!
Binary64 numbers in decimal. A decimal is a natural number of units `10 ^ exponent`; every finite
binary64 value is one exactly, because the denominator is a power of two.

`shortest` looks for the fewest digits that read back: for one digit, two digits and so on it takes
the two neighbours of the exact value on that decimal grid, the nearer one first and the even one at
a tie, and answers with the first that `ofDecimal` maps to the number again. At the full number of
digits the grid holds the value itself, so the search never leaves without an answer.
-/

namespace ContentForms.Binary64

structure Decimal where
  digits : Nat
  exponent : Int
  deriving DecidableEq

def digitCount (n : Nat) : Nat :=
  (Text.decimal n).length

def trailingZeros (n : Nat) : Nat :=
  ((Text.decimal n).reverse.takeWhile (· = '0')).length

/-- The same value with no trailing zero among its digits, so that equal values become equal. -/
def Decimal.normal (d : Decimal) : Decimal :=
  if d.digits = 0 then ⟨0, 0⟩
  else ⟨d.digits / Nat.pow 10 (trailingZeros d.digits), d.exponent + trailingZeros d.digits⟩

/-- The nearest binary64 value, or nothing when that would be infinite. The two shortcuts keep the
powers of ten as small as the digits given: below `10 ^ (-330)` everything rounds to zero, and from
`10 ^ 310` on nothing is finite. -/
def ofDecimal (negative : Bool) (decimal : Decimal) : Option Binary64 :=
  let d := decimal.normal
  if d.digits = 0 then some (zero negative)
  else
    let top : Int := digitCount d.digits + d.exponent
    if 310 < top then none
    else if top < -330 then some (zero negative)
    else ofRatio negative (d.digits * Nat.pow 10 d.exponent.toNat) (Nat.pow 10 (-d.exponent).toNat)

def exactDecimal (x : Binary64) : Decimal :=
  if 0 ≤ x.scale then ⟨x.significand * Nat.pow 2 x.scale.toNat, 0⟩
  else ⟨x.significand * Nat.pow 5 (-x.scale).toNat, x.scale⟩

/-- The two neighbours of a decimal when its last digits are cut off, the nearer one first. -/
def neighbours (d : Decimal) (cut : Nat) : List Decimal :=
  let unit := Nat.pow 10 cut
  let low := d.digits / unit
  let rest := d.digits % unit
  let exponent := d.exponent + cut
  if 2 * rest < unit || (2 * rest == unit && low % 2 == 0) then
    [⟨low, exponent⟩, ⟨low + 1, exponent⟩]
  else [⟨low + 1, exponent⟩, ⟨low, exponent⟩]

/-- The decimal with the fewest digits that reads back as the number. -/
def shortest (x : Binary64) : Decimal :=
  let exact := x.exactDecimal
  let count := digitCount exact.digits
  let found := (List.range count).findSome? fun kept =>
    (neighbours exact (count - (kept + 1))).find? fun d => ofDecimal x.negative d == some x
  found.getD exact

/-- How a number is laid out: the powers of ten between which it is written positionally, and
whether a positive exponent bears a sign. -/
structure Layout where
  leastPoint : Int
  greatestPoint : Int
  plusSign : Bool

/-- The digits without trailing zeros, and how many of them stand before the point. -/
def pointed (d : Decimal) : List Char × Int :=
  let cs := Text.decimal d.normal.digits
  (cs, cs.length + d.normal.exponent)

def layOut (layout : Layout) (cs : List Char) (point : Int) : List Char :=
  if layout.leastPoint ≤ point ∧ point ≤ layout.greatestPoint then
    if point ≤ 0 then '0' :: '.' :: (List.replicate (-point).toNat '0' ++ cs)
    else if (cs.length : Int) ≤ point then
      cs ++ List.replicate (point.toNat - cs.length) '0' ++ ['.', '0']
    else cs.take point.toNat ++ '.' :: cs.drop point.toNat
  else
    let body := match cs with
      | [] => []
      | [c] => [c]
      | c :: rest => c :: '.' :: rest
    let power := point - 1
    let sign := if power < 0 then ['-'] else if layout.plusSign then ['+'] else []
    body ++ 'e' :: (sign ++ Text.decimal power.natAbs)

def render (layout : Layout) (x : Binary64) : List Char :=
  let sign := if x.negative then ['-'] else []
  if x.isZero then sign ++ ['0', '.', '0']
  else
    let (cs, point) := pointed x.shortest
    sign ++ layOut layout cs point

end ContentForms.Binary64
