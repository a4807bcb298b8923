import ContentForms.Binary64.Literal
import ContentForms.Json.Number
import ContentForms.Text.Split

/-!
YAML values. A plain scalar is read by the core schema: the spellings of null and of the truth
values, integers in four bases and floats; all others are text. Two values can be equal without
having the same form: mappings do not depend on the order of their entries, zero has no sign, and
a number that is not a number equals itself.
-/

namespace ContentForms.Yaml

inductive Number where
  | int (value : Int)
  | float (value : Binary64)
  | infinity (negative : Bool)
  | notANumber
  deriving DecidableEq

inductive Value where
  | null
  | bool (value : Bool)
  | num (value : Number)
  | str (text : String)
  | sequence (items : List Value)
  | mapping (entries : List (Value × Value))
  /-- A value with a tag of its own, which is given without its exclamation mark. -/
  | tagged (tag : String) (value : Value)

namespace Value

mutual
def decideEq : (a b : Value) → Decidable (a = b)
  | .null, .null => .isTrue rfl
  | .bool a, .bool b => decidable_of_iff (a = b) (by simp)
  | .num a, .num b => decidable_of_iff (a = b) (by simp)
  | .str a, .str b => decidable_of_iff (a = b) (by simp)
  | .sequence xs, .sequence ys =>
      letI := decideEqItems xs ys
      decidable_of_iff (xs = ys) (by simp)
  | .mapping xs, .mapping ys =>
      letI := decideEqEntries xs ys
      decidable_of_iff (xs = ys) (by simp)
  | .tagged s a, .tagged t b =>
      letI := decideEq a b
      decidable_of_iff (s = t ∧ a = b) (by simp)
  | .null, .bool _ | .null, .num _ | .null, .str _ | .null, .sequence _ | .null, .mapping _
  | .null, .tagged _ _ => .isFalse (by simp)
  | .bool _, .null | .bool _, .num _ | .bool _, .str _ | .bool _, .sequence _
  | .bool _, .mapping _ | .bool _, .tagged _ _ => .isFalse (by simp)
  | .num _, .null | .num _, .bool _ | .num _, .str _ | .num _, .sequence _ | .num _, .mapping _
  | .num _, .tagged _ _ => .isFalse (by simp)
  | .str _, .null | .str _, .bool _ | .str _, .num _ | .str _, .sequence _ | .str _, .mapping _
  | .str _, .tagged _ _ => .isFalse (by simp)
  | .sequence _, .null | .sequence _, .bool _ | .sequence _, .num _ | .sequence _, .str _
  | .sequence _, .mapping _ | .sequence _, .tagged _ _ => .isFalse (by simp)
  | .mapping _, .null | .mapping _, .bool _ | .mapping _, .num _ | .mapping _, .str _
  | .mapping _, .sequence _ | .mapping _, .tagged _ _ => .isFalse (by simp)
  | .tagged _ _, .null | .tagged _ _, .bool _ | .tagged _ _, .num _ | .tagged _ _, .str _
  | .tagged _ _, .sequence _ | .tagged _ _, .mapping _ => .isFalse (by simp)

def decideEqItems : (xs ys : List Value) → Decidable (xs = ys)
  | [], [] => .isTrue rfl
  | [], _ :: _ | _ :: _, [] => .isFalse (by simp)
  | x :: xs, y :: ys =>
      letI := decideEq x y
      letI := decideEqItems xs ys
      decidable_of_iff (x = y ∧ xs = ys) (by simp)

def decideEqEntries : (xs ys : List (Value × Value)) → Decidable (xs = ys)
  | [], [] => .isTrue rfl
  | [], _ :: _ | _ :: _, [] => .isFalse (by simp)
  | (k, v) :: xs, (l, w) :: ys =>
      letI := decideEq k l
      letI := decideEq v w
      letI := decideEqEntries xs ys
      decidable_of_iff (k = l ∧ v = w ∧ xs = ys) (by simp [and_assoc])
end

instance : DecidableEq Value := decideEq

end Value

namespace Number

def same : Number → Number → Bool
  | .int a, .int b => a == b
  | .float a, .float b => a == b || (a.isZero && b.isZero)
  | .infinity a, .infinity b => a == b
  | .notANumber, .notANumber => true
  | _, _ => false

end Number

namespace Value

mutual
/-- Whether two values are equal as keys of a mapping. -/
def same : Value → Value → Bool
  | .null, .null => true
  | .bool a, .bool b => a == b
  | .num a, .num b => Number.same a b
  | .str a, .str b => a == b
  | .sequence xs, .sequence ys => sameItems xs ys
  | .mapping xs, .mapping ys => xs.length == ys.length && hasEntries xs ys
  | .tagged s a, .tagged t b => s == t && same a b
  | _, _ => false

def sameItems : List Value → List Value → Bool
  | [], [] => true
  | x :: xs, y :: ys => same x y && sameItems xs ys
  | _, _ => false

def hasEntries : List (Value × Value) → List (Value × Value) → Bool
  | [], _ => true
  | (key, value) :: rest, ys =>
      ys.any (fun entry => same key entry.1 && same value entry.2) && hasEntries rest ys
end

end Value

namespace Scalar

def null? (cs : String) : Bool :=
  cs = "null" || cs = "Null" || cs = "NULL" || cs = "~"

def bool? (cs : String) : Option Bool :=
  if cs = "true" || cs = "True" || cs = "TRUE" then some true
  else if cs = "false" || cs = "False" || cs = "FALSE" then some false
  else none

/-- Two or more digits of which the first is a zero, with or without a sign: no number. -/
def isPaddedDigits (cs : List Char) : Bool :=
  let digits := match cs with
    | '-' :: rest | '+' :: rest => rest
    | cs => cs
  1 < digits.length && digits.head? == some '0' && digits.all Char.isDigit

def basedNat? : List Char → Option Nat
  | '0' :: 'x' :: rest => Text.readNat? 16 rest
  | '0' :: 'o' :: rest => Text.readNat? 8 rest
  | '0' :: 'b' :: rest => Text.readNat? 2 rest
  | _ => none

def nat? (cs : List Char) : Option Nat :=
  (basedNat? cs).or (Text.readNat? 10 cs)

/-- The integer that a scalar spells, of any size. -/
def int? (cs : List Char) : Option Int :=
  if isPaddedDigits cs then none
  else match cs with
    | '-' :: rest => (nat? rest).map fun n => -(n : Int)
    | '+' :: rest => (nat? rest).map Int.ofNat
    | cs => (nat? cs).map Int.ofNat

/-- Numbers of more bits than are stored; a number beyond them is read as a float. -/
def fitsWide (i : Int) : Bool :=
  -(Int.pow 2 127) ≤ i && i < Int.pow 2 128

def isInfinityName (cs : List Char) : Bool :=
  cs = ".inf".toList || cs = ".Inf".toList || cs = ".INF".toList

def float? (cs : List Char) : Option Number :=
  match cs with
  | '+' :: '+' :: _ | '+' :: '-' :: _ => none
  | '+' :: rest =>
      if isInfinityName rest then some (.infinity false)
      else (Binary64.readLiteral? rest).map .float
  | cs =>
      if isInfinityName cs then some (.infinity false)
      else if cs.head? = some '-' && isInfinityName cs.tail then some (.infinity true)
      else if cs = ".nan".toList || cs = ".NaN".toList || cs = ".NAN".toList then some .notANumber
      else (Binary64.readLiteral? cs).map .float

/-- An integer as a value; nothing if it is one that cannot be stored. -/
def storedInt? (i : Int) : Option Value :=
  if ContentForms.Number.fits i then some (.num (.int i)) else none

/-- The value of a plain scalar without a tag; nothing if it is an integer that cannot be stored. -/
def plain? (s : String) : Option Value :=
  let cs := s.toList
  if s.isEmpty || null? s then some .null
  else match bool? s with
    | some b => some (.bool b)
    | none =>
        match (int? cs).filter fitsWide with
        | some i => storedInt? i
        | none =>
            match if isPaddedDigits cs then none else float? cs with
            | some x => some (.num x)
            | none => some (.str s)

def coreTag : String := "tag:yaml.org,2002:"

/-- The value of a scalar with a tag that is not of the document's own; nothing if the text is not
of the type that a tag of the core schema names. -/
def global? (tag s : String) : Option Value :=
  if tag = coreTag ++ "bool" then (bool? s).map .bool
  else if tag = coreTag ++ "int" then ((int? s.toList).filter fitsWide).bind storedInt?
  else if tag = coreTag ++ "float" then (float? s.toList).map .num
  else if tag = coreTag ++ "null" then if null? s then some .null else none
  else some (.str s)

end Scalar

end ContentForms.Yaml
