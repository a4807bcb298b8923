import ContentForms.Binary64.Decimal

/-!
Number literals as people type them: an optional sign, digits with at most one point, and an
optional exponent. At least one digit is needed, on either side of the point. A literal whose
value rounds to infinity is none.
-/

namespace ContentForms.Binary64

def readPower? : List Char → Option Int
  | '-' :: cs => (Text.readNat? 10 cs).map fun n => -(n : Int)
  | '+' :: cs => (Text.readNat? 10 cs).map Int.ofNat
  | cs => (Text.readNat? 10 cs).map Int.ofNat

def cutDigits (cs : List Char) : List Char × List Char × List Char :=
  let whole := cs.takeWhile Char.isDigit
  match cs.dropWhile Char.isDigit with
  | '.' :: more => (whole, more.takeWhile Char.isDigit, more.dropWhile Char.isDigit)
  | rest => (whole, [], rest)

def readMagnitude? (cs : List Char) : Option Decimal :=
  let (whole, fraction, rest) := cutDigits cs
  if whole.isEmpty && fraction.isEmpty then none
  else
    let power? := match rest with
      | [] => some 0
      | c :: more => if c = 'e' || c = 'E' then readPower? more else none
    power?.map fun power => ⟨Text.ofDigits 10 (whole ++ fraction), power - fraction.length⟩

/-- The nearest value to a literal, if it is finite. -/
def readLiteral? : List Char → Option Binary64
  | '-' :: cs => (readMagnitude? cs).bind (ofDecimal true)
  | '+' :: cs => (readMagnitude? cs).bind (ofDecimal false)
  | cs => (readMagnitude? cs).bind (ofDecimal false)

end ContentForms.Binary64
