import ContentForms.Binary64.Basic

/-!
Products and quotients of binary64 numbers. Each is the nearest number to the exact result, and
missing if that number is infinite.
-/

namespace ContentForms.Binary64

def mul? (x y : Binary64) : Option Binary64 :=
  ofRatio (x.negative != y.negative) (x.ratio.1 * y.ratio.1) (x.ratio.2 * y.ratio.2)

/-- The quotient by a number other than zero. -/
def div? (x y : Binary64) : Option Binary64 :=
  ofRatio (x.negative != y.negative) (x.ratio.1 * y.ratio.2) (x.ratio.2 * y.ratio.1)

def ofNat? (n : Nat) : Option Binary64 :=
  ofRatio false n 1

def tenPow? (power : Nat) : Option Binary64 :=
  ofNat? (Nat.pow 10 power)

end ContentForms.Binary64
