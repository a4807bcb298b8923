import ContentForms.Json.Number

/-!
The tokens of JSON. The text is read one character at a time by `Scan.step`, so the tokens of a
concatenation are found by resuming after its first part. A token in progress is a word (a number or
one of the three names) or a quoted string together with the state of the escape it is in.

An escape outside the first plane is two escapes, a high half followed at once by a low half; a half
on its own stands for no character and is refused, as is an unescaped control character.
-/

namespace ContentForms.Json

inductive Token where
  | openArray
  | closeArray
  | openObject
  | closeObject
  | comma
  | colon
  | null
  | bool (value : Bool)
  | num (value : Number)
  | str (text : String)
  deriving DecidableEq

namespace Token

inductive Escape where
  | none
  /-- After a backslash. -/
  | started
  /-- Inside a four-digit escape, after a high half if one is given. -/
  | hex (high : Option Nat) (digits : List Char)
  /-- After a complete high half. -/
  | afterHigh (high : Nat)
  /-- After a high half and a backslash. -/
  | startedLow (high : Nat)

/-- What has been read of the current token, most recent character first. -/
inductive Partial where
  | none
  | word (read : List Char)
  | quoted (read : List Char) (escape : Escape)

structure Scan where
  /-- The complete tokens, the latest first. -/
  done : List Token
  current : Partial

def isSpace (c : Char) : Bool :=
  c = ' ' || c = '\n' || c = '\t' || c = '\r'

def isWordChar (c : Char) : Bool :=
  c.isAlphanum || c = '-' || c = '+' || c = '.'

def ofMark? : Char → Option Token
  | '[' => some .openArray
  | ']' => some .closeArray
  | '\x7b' => some .openObject
  | '\x7d' => some .closeObject
  | ',' => some .comma
  | ':' => some .colon
  | _ => none

def ofWord? (cs : List Char) : Option Token :=
  if cs = "null".toList then some .null
  else if cs = "true".toList then some (.bool true)
  else if cs = "false".toList then some (.bool false)
  else (Number.read? cs).map .num

def unescape? : Char → Option Char
  | '"' => some '"'
  | '\\' => some '\\'
  | '/' => some '/'
  | 'b' => some '\x08'
  | 'f' => some '\x0c'
  | 'n' => some '\n'
  | 'r' => some '\r'
  | 't' => some '\t'
  | _ => none

def isHighHalf (n : Nat) : Bool :=
  0xD800 ≤ n && n < 0xDC00

def isLowHalf (n : Nat) : Bool :=
  0xDC00 ≤ n && n < 0xE000

/-- What a complete four-digit escape adds to a string. -/
def closeHex (read : List Char) (high : Option Nat) (n : Nat) : Option Partial :=
  match high with
  | some h =>
      if isLowHalf n then
        some (.quoted (Char.ofNat (0x10000 + (h - 0xD800) * 0x400 + (n - 0xDC00)) :: read) .none)
      else none
  | none =>
      if isHighHalf n then some (.quoted read (.afterHigh n))
      else if isLowHalf n then none
      else some (.quoted (Char.ofNat n :: read) .none)

def stepQuoted (read : List Char) (escape : Escape) (c : Char) : Option Partial :=
  match escape with
  | .none =>
      if c = '\\' then some (.quoted read .started)
      else if c.toNat < 0x20 then none
      else some (.quoted (c :: read) .none)
  | .started =>
      if c = 'u' then some (.quoted read (.hex none []))
      else (unescape? c).map fun d => .quoted (d :: read) .none
  | .hex high digits =>
      if !Text.isHexDigit c then none
      else if digits.length < 3 then some (.quoted read (.hex high (digits ++ [c])))
      else closeHex read high (Text.ofDigits 16 (digits ++ [c]))
  | .afterHigh high => if c = '\\' then some (.quoted read (.startedLow high)) else none
  | .startedLow high => if c = 'u' then some (.quoted read (.hex (some high) [])) else none

def Scan.begin (done : List Token) (c : Char) : Option Scan :=
  if isSpace c then some ⟨done, .none⟩
  else if c = '"' then some ⟨done, .quoted [] .none⟩
  else if isWordChar c then some ⟨done, .word [c]⟩
  else (ofMark? c).map fun t => ⟨t :: done, .none⟩

def Scan.step (s : Scan) (c : Char) : Option Scan :=
  match s.current with
  | .none => Scan.begin s.done c
  | .word read =>
      if isWordChar c then some ⟨s.done, .word (c :: read)⟩
      else (ofWord? read.reverse).bind fun t => Scan.begin (t :: s.done) c
  | .quoted read .none =>
      if c = '"' then some ⟨.str (String.ofList read.reverse) :: s.done, .none⟩
      else (stepQuoted read .none c).map (⟨s.done, ·⟩)
  | .quoted read escape => (stepQuoted read escape c).map (⟨s.done, ·⟩)

/-- The tokens at the end of the text, unless a string is still open. -/
def Scan.finish (s : Scan) : Option (List Token) :=
  match s.current with
  | .none => some s.done.reverse
  | .word read => (ofWord? read.reverse).map fun t => (t :: s.done).reverse
  | .quoted _ _ => none

def scan? (cs : List Char) : Option (List Token) :=
  (cs.foldlM Scan.step ⟨[], .none⟩).bind Scan.finish

end Token

end ContentForms.Json
