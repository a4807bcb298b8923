import ContentForms.Text.Digits
import ContentForms.Text.Split

/-!
IPv4 addresses as host names spell them: up to four numbers with dots between them, in decimal, in
octal after a zero or in hexadecimal after `0x`, the last of which fills all bytes that are left. A
host name whose last label is a number must be such an address.
-/

namespace ContentForms.Ipv4

/-- The value of a number, if the text is one. The digits after `0x` may be missing. -/
def readPart? (cs : List Char) : Option Nat :=
  match cs with
  | [] => none
  | '0' :: 'x' :: rest | '0' :: 'X' :: rest => readIn 16 rest
  | '0' :: d :: rest => readIn 8 (d :: rest)
  | cs => readIn 10 cs
where
  readIn (base : Nat) (digits : List Char) : Option Nat :=
    if digits.isEmpty then some 0 else Text.readNat? base digits

/-- The labels of a host name, without the empty one after a final dot. -/
def labelsOf (host : List (List Char)) : List (List Char) :=
  if host.getLast? = some [] then host.dropLast else host

/-- Whether a host name has to be an address because its last label is a number. -/
def endsInNumber (host : List (List Char)) : Bool :=
  match (labelsOf host).getLast? with
  | none => false
  | some label => (!label.isEmpty && label.all Char.isDigit) || (readPart? label).isSome

def isAddress (host : List (List Char)) : Bool :=
  let labels := labelsOf host
  match labels.mapM readPart? with
  | none => false
  | some numbers =>
      match numbers.reverse with
      | [] => false
      | last :: others =>
          labels.length ≤ 4 && others.all (· ≤ 255) && last < Nat.pow 256 (4 - others.length)

end ContentForms.Ipv4
