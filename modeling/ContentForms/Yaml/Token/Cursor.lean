import ContentForms.Yaml.Token.Basic

/-!
A place in the text: what is left of it, and the line and column there. Lines are counted so that
a key can be told to stand on one line with its colon, and the offset so that it can be told to be
short.
-/

namespace ContentForms.Yaml

/-- The number of a character in its line, of its line, and in the text, all from zero. -/
structure Mark where
  column : Nat
  line : Nat
  offset : Nat

def Mark.after (m : Mark) (c : Char) : Mark :=
  if isBreak c then ⟨0, m.line + 1, m.offset + 1⟩ else ⟨m.column + 1, m.line, m.offset + 1⟩

structure Cursor where
  rest : List Char
  mark : Mark

namespace Cursor

def ofText (cs : List Char) : Cursor := ⟨cs, 0, 0, 0⟩

def column (c : Cursor) : Nat :=
  c.mark.column

def skip (n : Nat) (c : Cursor) : Cursor :=
  ⟨c.rest.drop n, c.mark.column + n, c.mark.line, c.mark.offset + n⟩

def next (c : Cursor) : Cursor :=
  match c.rest with
  | [] => c
  | ch :: rest => ⟨rest, c.mark.after ch⟩

def takeWhile (p : Char → Bool) (c : Cursor) : List Char × Cursor :=
  let taken := c.rest.takeWhile fun ch => p ch && !isBreak ch
  (taken, c.skip taken.length)

def skipSpacing (c : Cursor) : Cursor :=
  (c.takeWhile isSpacing).2

/-- The place after the blanks and the comment that end a line, at its break or the end of the text;
nothing if something else is there. -/
def endOfLine? (c : Cursor) : Option Cursor :=
  let c := c.skipSpacing
  let c := if c.rest.head? = some '#' then (c.takeWhile fun _ => true).2 else c
  if c.rest.head?.all isBreak then some c else none

end Cursor

end ContentForms.Yaml
