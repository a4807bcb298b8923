import ContentForms.Assoc
import ContentForms.Binary64.Basic

/-!
JSON values. A number is an integer of sixty-four bits, signed or unsigned, or a finite binary64
value; which of the two is part of the value, so `1` and `1.0` differ. The members of an object
are an association list. A value that was read, or built by `object`, has them in ascending key
order and has no key twice, so two spellings that differ only in the order of members are read as
one value; the records of this library are written in the order of their fields.
-/

namespace ContentForms

inductive Number where
  | int (value : Int)
  | float (value : Binary64)
  deriving DecidableEq

inductive Json where
  | null
  | bool (value : Bool)
  | num (value : Number)
  | str (text : String)
  | arr (items : List Json)
  | obj (members : List (String × Json))
  deriving Inhabited

namespace Json

mutual
def decideEq : (a b : Json) → Decidable (a = b)
  | .null, .null => .isTrue rfl
  | .bool a, .bool b => decidable_of_iff (a = b) (by simp)
  | .num a, .num b => decidable_of_iff (a = b) (by simp)
  | .str a, .str b => decidable_of_iff (a = b) (by simp)
  | .arr xs, .arr ys =>
      letI := decideEqItems xs ys
      decidable_of_iff (xs = ys) (by simp)
  | .obj ms, .obj ns =>
      letI := decideEqMembers ms ns
      decidable_of_iff (ms = ns) (by simp)
  | .null, .bool _ | .null, .num _ | .null, .str _ | .null, .arr _ | .null, .obj _ =>
      .isFalse (by simp)
  | .bool _, .null | .bool _, .num _ | .bool _, .str _ | .bool _, .arr _ | .bool _, .obj _ =>
      .isFalse (by simp)
  | .num _, .null | .num _, .bool _ | .num _, .str _ | .num _, .arr _ | .num _, .obj _ =>
      .isFalse (by simp)
  | .str _, .null | .str _, .bool _ | .str _, .num _ | .str _, .arr _ | .str _, .obj _ =>
      .isFalse (by simp)
  | .arr _, .null | .arr _, .bool _ | .arr _, .num _ | .arr _, .str _ | .arr _, .obj _ =>
      .isFalse (by simp)
  | .obj _, .null | .obj _, .bool _ | .obj _, .num _ | .obj _, .str _ | .obj _, .arr _ =>
      .isFalse (by simp)

def decideEqItems : (xs ys : List Json) → Decidable (xs = ys)
  | [], [] => .isTrue rfl
  | [], _ :: _ | _ :: _, [] => .isFalse (by simp)
  | x :: xs, y :: ys =>
      letI := decideEq x y
      letI := decideEqItems xs ys
      decidable_of_iff (x = y ∧ xs = ys) (by simp)

def decideEqMembers : (ms ns : List (String × Json)) → Decidable (ms = ns)
  | [], [] => .isTrue rfl
  | [], _ :: _ | _ :: _, [] => .isFalse (by simp)
  | (k, v) :: ms, (l, w) :: ns =>
      letI := decideEq v w
      letI := decideEqMembers ms ns
      decidable_of_iff (k = l ∧ v = w ∧ ms = ns) (by simp [and_assoc])
end

instance : DecidableEq Json := decideEq

def get? (key : String) : Json → Option Json
  | .obj members => Assoc.get? key members
  | _ => none

def at? : List String → Json → Option Json
  | [], value => some value
  | key :: rest, value => (value.get? key).bind (at? rest)

def text? : Json → Option String
  | .str text => some text
  | _ => none

def bool? : Json → Option Bool
  | .bool value => some value
  | _ => none

def isObject : Json → Bool
  | .obj _ => true
  | _ => false

/-- An object from its members in any order; of two under one key the later one stays. -/
def object (members : List (String × Json)) : Json :=
  .obj (Assoc.ofList members)

mutual
def depth : Json → Nat
  | .arr items => depthItems items + 1
  | .obj members => depthMembers members + 1
  | _ => 0

def depthItems : List Json → Nat
  | [] => 0
  | x :: xs => max (depth x) (depthItems xs)

def depthMembers : List (String × Json) → Nat
  | [] => 0
  | (_, v) :: rest => max (depth v) (depthMembers rest)
end

end Json

end ContentForms
