import ContentForms.Binary64.Arithmetic
import ContentForms.Binary64.Decimal
import ContentForms.Json.Basic

/-!
The texts of numbers in JSON. Writing: integers in decimal, binary64 values with the fewest digits
to which they are the nearest, positionally between `1e-5` and `1e16`. Reading: a number without
point and exponent that fits into sixty-four bits is an integer, except for a negative zero. Every
other one is computed from a significand of sixty-four bits and a power of ten, and refused when it
becomes infinite. The significand, the power and their product are each rounded, so the number that
is read is near to what the text says, but it need not be the nearest one.
-/

namespace ContentForms.Number

/-- Values from `1e-5` up to below `1e16` are written positionally. -/
def layout : Binary64.Layout where
  leastPoint := -4
  greatestPoint := 16
  plusSign := true

def render : Number → List Char
  | .int value => Text.decimalInt value
  | .float value => value.render layout

def leastInt : Int := -(Int.pow 2 63)

def greatestInt : Int := Int.pow 2 64 - 1

def fits (i : Int) : Bool :=
  leastInt ≤ i && i ≤ greatestInt

/-! ### Numbers from parts -/

def greatestSignificand : Nat := Nat.pow 2 64 - 1

def greatestPower : Nat := 308

/-- Takes digits into a significand until it would not fit, and gives the digits that are left. -/
def takeDigits (significand : Nat) : List Char → Nat × List Char
  | [] => (significand, [])
  | c :: rest =>
      let next := significand * 10 + Text.digitValue c
      if greatestSignificand < next then (significand, c :: rest) else takeDigits next rest

/-- The significand of the digits before and after a point, and its power of ten: digits before the
point that are left raise it, and digits after the point that are taken lower it. -/
def significandOf (whole fraction : List Char) : Nat × Int :=
  let (significand, wholeLeft) := takeDigits 0 whole
  let (significand, fractionLeft) := takeDigits significand fraction
  (significand, wholeLeft.length - (fraction.length - fractionLeft.length : Nat))

/-- Divides by the greatest power of ten so many times, but no further than to zero. -/
def scaleDown? : (times : Nat) → Binary64 → Option Binary64
  | 0, x => some x
  | times + 1, x =>
      if x.isZero then some x
      else do
        let next ← x.div? (← Binary64.tenPow? greatestPower)
        scaleDown? times next

def ofParts? (significand : Nat) (exponent : Int) : Option Binary64 := do
  let x ← Binary64.ofNat? significand
  match exponent with
  | .ofNat power =>
      if power ≤ greatestPower then x.mul? (← Binary64.tenPow? power)
      else if x.isZero then some x
      else none
  | .negSucc power =>
      let x ← scaleDown? (power / greatestPower) x
      x.div? (← Binary64.tenPow? (power % greatestPower + 1))

/-! ### Texts -/

def readExponent? (cs : List Char) : Option Int :=
  match cs with
  | '-' :: rest => (Text.readNat? 10 rest).map fun n => -(n : Int)
  | '+' :: rest => (Text.readNat? 10 rest).map fun n => (n : Int)
  | rest => (Text.readNat? 10 rest).map fun n => (n : Int)

/-- The fraction and exponent parts that may follow the whole digits, as the fraction's digits and
the exponent. Both parts are optional, and a point needs a digit after it. -/
def readTail? (cs : List Char) : Option (List Char × Int) :=
  let (fraction, rest) := match cs with
    | '.' :: more => (some (more.takeWhile Char.isDigit), more.dropWhile Char.isDigit)
    | _ => (none, cs)
  if fraction = some [] then none
  else
    let digits := fraction.getD []
    match rest with
    | [] => some (digits, 0)
    | c :: more => if c = 'e' || c = 'E' then (readExponent? more).map (digits, ·) else none

/-- The unsigned part of a number: digits without a superfluous leading zero, then the tail. -/
def readUnsigned? (negative : Bool) (cs : List Char) : Option Number :=
  let whole := cs.takeWhile Char.isDigit
  let tail := cs.dropWhile Char.isDigit
  if whole.isEmpty || (whole.head? == some '0' && 1 < whole.length) then none
  else
    let n := Text.ofDigits 10 whole
    let i : Int := if negative then -(n : Int) else n
    if tail.isEmpty && fits i && !(negative && n == 0) then some (.int i)
    else do
      let (fraction, exponent) ← readTail? tail
      let (significand, power) := significandOf whole fraction
      let value ← ofParts? significand (exponent + power)
      pure (.float { value with negative })

def read? : List Char → Option Number
  | '-' :: rest => readUnsigned? true rest
  | cs => readUnsigned? false cs

end ContentForms.Number
