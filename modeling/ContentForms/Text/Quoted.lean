import ContentForms.Text.Digits
import ContentForms.Unicode.Visible

/-!
Texts in quotes, as messages show them: quotes, backslashes and the usual controls are escaped by a
letter, and what cannot be seen is shown by its number.
-/

namespace ContentForms.Text

def hexDigits (n : Nat) : List Char :=
  Nat.toDigits 16 n

def showChar (c : Char) : List Char :=
  match c with
  | '"' => ['\\', '"']
  | '\\' => ['\\', '\\']
  | '\t' => ['\\', 't']
  | '\n' => ['\\', 'n']
  | '\r' => ['\\', 'r']
  | '\x00' => ['\\', '0']
  | c =>
      if Unicode.isVisible c then [c]
      else ['\\', 'u', '\x7b'] ++ hexDigits c.toNat ++ ['\x7d']

def quoted (s : String) : String :=
  String.ofList ('"' :: (s.toList.flatMap showChar ++ ['"']))

end ContentForms.Text
