import ContentForms.Yaml.Token.Folding

/-!
Plain scalars. A plain scalar goes on over words and lines until a colon that a blank follows, a
comment, a mark between documents, a line that is not indented enough, or, inside brackets, a
bracket or comma.
-/

namespace ContentForms.Yaml.Plain

/-- Where a plain scalar stands: inside brackets or not, and the least column of its further
lines. -/
structure Context where
  inFlow : Bool
  indent : Int

def isFlowMark (c : Char) : Bool :=
  c = ',' || c = '[' || c = ']' || c = '\x7b' || c = '\x7d'

def endsBeforeWord (ctx : Context) (column : Nat) (cs : List Char) : Bool :=
  (!ctx.inFlow && (column : Int) < ctx.indent) || (column == 0 && isDocumentMark cs) ||
    cs.head? == some '#'

def endsBefore (ctx : Context) (c : Char) (rest : List Char) : Bool :=
  (c = ':' && endsWord rest) || (ctx.inFlow && isFlowMark c)

/-- Inside brackets a colon may not touch the bracket, comma or question mark after it. -/
def isMisplacedColon (ctx : Context) (c : Char) (rest : List Char) : Bool :=
  ctx.inFlow && c = ':' && rest.head?.any fun d => isFlowMark d || d = '?'

/-- A tab may not stand for the indentation of a further line. -/
def isMisplacedTab (ctx : Context) (f : Folding) (column : Nat) (c : Char) : Bool :=
  c = '\t' && f.broken && (column : Int) < ctx.indent

def readFrom (ctx : Context) (f : Folding) (inWord : Bool) (m : Mark) :
    List Char → Option (Folding × Cursor)
  | [] => some (f, ⟨[], m⟩)
  | c :: rest =>
      if isBreak c then readFrom ctx (f.addBreak c) false (m.after c) rest
      else if isSpacing c then
        if isMisplacedTab ctx f m.column c then none
        else readFrom ctx (f.addBlank c) false (m.after c) rest
      else if !inWord && endsBeforeWord ctx m.column (c :: rest) then
        some (f, ⟨c :: rest, m⟩)
      else if isMisplacedColon ctx c rest then none
      else if endsBefore ctx c rest then some (f, ⟨c :: rest, m⟩)
      else readFrom ctx (f.addChar c) true (m.after c) rest

/-- The scalar that starts here, and the place after it and the blanks that follow it. -/
def read? (ctx : Context) (c : Cursor) : Option (Folding × Cursor) :=
  readFrom ctx .start true c.mark c.rest

end ContentForms.Yaml.Plain
