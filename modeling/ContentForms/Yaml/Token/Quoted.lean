import ContentForms.Yaml.Token.Folding

/-!
Quoted scalars. Between single quotes only the quote itself is special and is written twice; between
double quotes a backslash starts an escape, and one at the end of a line joins the line to the next.
Lines are folded as in plain scalars, and no mark between documents may stand inside.
-/

namespace ContentForms.Yaml.Quoted

def simpleEscape? : Char → Option Char
  | '0' => some '\x00'
  | 'a' => some '\x07'
  | 'b' => some '\x08'
  | 't' | '\t' => some '\t'
  | 'n' => some '\n'
  | 'v' => some '\x0b'
  | 'f' => some '\x0c'
  | 'r' => some '\r'
  | 'e' => some '\x1b'
  | ' ' => some ' '
  | '"' => some '"'
  | '/' => some '/'
  | '\\' => some '\\'
  | 'N' => some '\u0085'
  | '_' => some '\u00a0'
  | 'L' => some '\u2028'
  | 'P' => some '\u2029'
  | _ => none

def hexLength? : Char → Option Nat
  | 'x' => some 2
  | 'u' => some 4
  | 'U' => some 8
  | _ => none

inductive Escape where
  | none
  /-- After a quote between single quotes. -/
  | quote
  /-- After a backslash. -/
  | backslash
  /-- So many digits are missing from a character with a number. -/
  | hex (missing value : Nat)

def readFrom (single : Bool) (f : Folding) (escape : Escape) (m : Mark) :
    List Char → Option (Folding × Cursor)
  | [] =>
      match escape with
      | .quote => some (f.join, ⟨[], m⟩)
      | _ => none
  | c :: rest =>
      match escape with
      | .quote =>
          if c = '\'' then readFrom single (f.addChar '\'') .none (m.after c) rest
          else some (f.join, ⟨c :: rest, m⟩)
      | .backslash =>
          if isBreak c then readFrom single f.join.escapeBreak .none (m.after c) rest
          else match simpleEscape? c, hexLength? c with
            | some d, _ => readFrom single (f.addChar d) .none (m.after c) rest
            | none, some n => readFrom single f (.hex n 0) (m.after c) rest
            | none, none => none
      | .hex missing value =>
          if !Text.isHexDigit c then none
          else
            let value := value * 16 + Text.digitValue c
            if 1 < missing then
              readFrom single f (.hex (missing - 1) value) (m.after c) rest
            else if value.isValidChar then
              readFrom single (f.addChar (Char.ofNat value)) .none (m.after c) rest
            else none
      | .none =>
          if isBreak c then readFrom single (f.addBreak c) .none (m.after c) rest
          else if isSpacing c then readFrom single (f.addBlank c) .none (m.after c) rest
          else if m.column == 0 && isDocumentMark (c :: rest) then none
          else if single && c = '\'' then readFrom single f .quote (m.after c) rest
          else if !single && c = '"' then
            some (f.join, ⟨rest, m.after c⟩)
          else if !single && c = '\\' then readFrom single f .backslash (m.after c) rest
          else readFrom single (f.addChar c) .none (m.after c) rest

def read? (single : Bool) (c : Cursor) : Option (String × Cursor) :=
  let inside := c.skip 1
  (readFrom single .start .none inside.mark inside.rest).map
    fun (f, after) => (f.result, after)

end ContentForms.Yaml.Quoted
