import ContentForms.Json.Number

/-!
Writing JSON, in one line without blanks (`compact`) or over several lines with two blanks per level
(`pretty`). Both write members and items in the order of the value and differ only in the blanks
around them; empty arrays and objects are the two brackets in either layout.
-/

namespace ContentForms.Json

/-- A character inside a string: quote, backslash and control characters are escaped, all else
stands for itself. -/
def escape (c : Char) : List Char :=
  match c with
  | '"' => ['\\', '"']
  | '\\' => ['\\', '\\']
  | '\x08' => ['\\', 'b']
  | '\x0c' => ['\\', 'f']
  | '\n' => ['\\', 'n']
  | '\r' => ['\\', 'r']
  | '\t' => ['\\', 't']
  | c =>
      if c.toNat < 0x20 then
        ['\\', 'u', '0', '0', Text.hexDigit (c.toNat / 16), Text.hexDigit c.toNat]
      else [c]

def quote (s : String) : List Char :=
  '"' :: (s.toList.flatMap escape ++ ['"'])

mutual
def compactChars : Json → List Char
  | .null => "null".toList
  | .bool b => (if b then "true" else "false").toList
  | .num n => n.render
  | .str s => quote s
  | .arr [] => ['[', ']']
  | .arr (x :: xs) => '[' :: (compactChars x ++ compactItems xs)
  | .obj [] => ['\x7b', '\x7d']
  | .obj ((k, v) :: rest) =>
      '\x7b' :: (quote k ++ ':' :: (compactChars v ++ compactMembers rest))

def compactItems : List Json → List Char
  | [] => [']']
  | x :: xs => ',' :: (compactChars x ++ compactItems xs)

def compactMembers : List (String × Json) → List Char
  | [] => ['\x7d']
  | (k, v) :: rest => ',' :: (quote k ++ ':' :: (compactChars v ++ compactMembers rest))
end

def newline (level : Nat) : List Char :=
  '\n' :: List.replicate (2 * level) ' '

mutual
def prettyChars (level : Nat) : Json → List Char
  | .null => "null".toList
  | .bool b => (if b then "true" else "false").toList
  | .num n => n.render
  | .str s => quote s
  | .arr [] => ['[', ']']
  | .arr (x :: xs) =>
      '[' :: (newline (level + 1) ++ (prettyChars (level + 1) x ++ prettyItems level xs))
  | .obj [] => ['\x7b', '\x7d']
  | .obj ((k, v) :: rest) =>
      '\x7b' :: (newline (level + 1) ++
        (quote k ++ ':' :: ' ' :: (prettyChars (level + 1) v ++ prettyMembers level rest)))

def prettyItems (level : Nat) : List Json → List Char
  | [] => newline level ++ [']']
  | x :: xs =>
      ',' :: (newline (level + 1) ++ (prettyChars (level + 1) x ++ prettyItems level xs))

def prettyMembers (level : Nat) : List (String × Json) → List Char
  | [] => newline level ++ ['\x7d']
  | (k, v) :: rest =>
      ',' :: (newline (level + 1) ++
        (quote k ++ ':' :: ' ' :: (prettyChars (level + 1) v ++ prettyMembers level rest)))
end

def compact (value : Json) : String :=
  String.ofList value.compactChars

def pretty (value : Json) : String :=
  String.ofList (value.prettyChars 0)

end ContentForms.Json
