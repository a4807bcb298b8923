import ContentForms.Text.Digits
import ContentForms.Text.Split

/-!
IPv6 addresses: eight pieces of one to four hexadecimal digits with colons between them. One run
of pieces may be left out and is then marked by two colons, and the last two pieces may be written
as an IPv4 address of four decimal numbers.
-/

namespace ContentForms.Ipv6

def isPiece (cs : List Char) : Bool :=
  !cs.isEmpty && cs.length ≤ 4 && cs.all Text.isHexDigit

def isByte (cs : List Char) : Bool :=
  match cs with
  | ['0'] => true
  | '0' :: _ => false
  | cs => match Text.readNat? 10 cs with
    | some n => n ≤ 255
    | none => false

def isDotted (cs : List Char) : Bool :=
  let parts := Text.pieces '.' cs
  parts.length == 4 && parts.all isByte

/-- How many pieces a sequence between colons stands for; only the last one may be dotted, and only
where the address ends with it. -/
def countPieces (last : Bool) : List (List Char) → Option Nat
  | [] => some 0
  | [piece] => if isPiece piece then some 1 else if last && isDotted piece then some 2 else none
  | piece :: rest => if isPiece piece then (countPieces last rest).map (· + 1) else none

/-- How many pieces a side of an address stands for; an empty side has none. -/
def countSide (last : Bool) (cs : List Char) : Option Nat :=
  if cs.isEmpty then some 0 else countPieces last (Text.pieces ':' cs)

def splitPair? : List Char → Option (List Char × List Char)
  | ':' :: ':' :: rest => some ([], rest)
  | c :: rest => (splitPair? rest).map fun (before, after) => (c :: before, after)
  | [] => none

def isAddress (cs : List Char) : Bool :=
  match splitPair? cs with
  | none => countSide true cs == some 8
  | some (before, after) =>
      match countSide false before, countSide true after with
      | some m, some n => m + n ≤ 7
      | _, _ => false

end ContentForms.Ipv6
