/-!
Digits of a number in a base up to thirty-six: the value of one digit character, the value of a
digit sequence, and the decimal spelling of a natural number or an integer.
-/

namespace ContentForms.Text

/-- The value of a digit or an ASCII letter, letters counting on from ten. -/
def digitValue (c : Char) : Nat :=
  if c.isDigit then c.toNat - '0'.toNat
  else if c.isLower then c.toNat - 'a'.toNat + 10
  else if c.isUpper then c.toNat - 'A'.toNat + 10
  else 36

def isDigitOf (base : Nat) (c : Char) : Bool :=
  digitValue c < base

def isHexDigit (c : Char) : Bool :=
  isDigitOf 16 c

/-- The number that a digit sequence denotes, most significant digit first. -/
def ofDigits (base : Nat) (cs : List Char) : Nat :=
  cs.foldl (fun acc c => acc * base + digitValue c) 0

def readNat? (base : Nat) (cs : List Char) : Option Nat :=
  if cs.isEmpty || !cs.all (isDigitOf base) then none else some (ofDigits base cs)

def decimal (n : Nat) : List Char :=
  Nat.toDigits 10 n

def decimalInt (i : Int) : List Char :=
  if i < 0 then '-' :: decimal i.natAbs else decimal i.natAbs

def hexDigit (n : Nat) : Char :=
  Nat.digitChar (n % 16)

@[simp] theorem ofDigits_nil (base : Nat) : ofDigits base [] = 0 := rfl

theorem ofDigits_append_singleton (base : Nat) (cs : List Char) (c : Char) :
    ofDigits base (cs ++ [c]) = ofDigits base cs * base + digitValue c := by
  simp [ofDigits]

end ContentForms.Text
