import ContentForms.Yaml.Token.Cursor

/-!
The folding of lines in plain and quoted scalars. Blanks between words are held back until the next
word: within a line they are kept, around a break they vanish; one break becomes a space, and of
several the first is dropped. A break that is not a line feed is kept as it is.
-/

namespace ContentForms.Yaml

/-- A scalar that is being read. The sequences are backwards. -/
structure Folding where
  text : List Char
  /-- Blanks since the last word, as long as no break has come. -/
  blanks : List Char
  firstBreak : Option Char
  moreBreaks : List Char
  /-- Whether a break has come since the last word. -/
  broken : Bool

namespace Folding

def start : Folding := ⟨[], [], none, [], false⟩

def addBlank (f : Folding) (c : Char) : Folding :=
  if f.broken then f else { f with blanks := c :: f.blanks }

def addBreak (f : Folding) (c : Char) : Folding :=
  if f.broken then { f with moreBreaks := c :: f.moreBreaks }
  else { f with blanks := [], firstBreak := some c, broken := true }

/-- A break that has been escaped leaves nothing of itself. -/
def escapeBreak (f : Folding) : Folding :=
  { f with broken := true }

/-- Enters what the blanks and breaks since the last word amount to. -/
def join (f : Folding) : Folding :=
  let text :=
    if f.broken then
      if f.firstBreak = some '\n' then
        if f.moreBreaks.isEmpty then ' ' :: f.text else f.moreBreaks ++ f.text
      else f.moreBreaks ++ f.firstBreak.toList ++ f.text
    else f.blanks ++ f.text
  ⟨text, [], none, [], false⟩

def addChar (f : Folding) (c : Char) : Folding :=
  let f := f.join
  { f with text := c :: f.text }

/-- The text up to the last word. -/
def result (f : Folding) : String :=
  String.ofList f.text.reverse

end Folding

end ContentForms.Yaml
