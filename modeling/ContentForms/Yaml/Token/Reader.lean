import ContentForms.Yaml.Token.Block
import ContentForms.Yaml.Token.Plain
import ContentForms.Yaml.Token.Quoted
import ContentForms.Yaml.Token.Tag

/-!
From text to tokens. What is a key shows only at the colon after it, so the reader notes for each
level of brackets where a key may have started; at the colon it enters the key token there, and
with it the start of a block mapping if the key is indented further than the collection around it.
Such a note lapses at the end of the line and after 1024 characters. A column that lies left of an
open block collection closes it.

The first place of a line in block style where nothing but a key can stand is one that has to turn
out to be a key; if its note lapses, the text is refused.
-/

namespace ContentForms.Yaml

/-- Where a key may have started: the number of tokens before it and its place. -/
structure KeyNote where
  position : Nat
  mark : Mark
  /-- Whether nothing but a key can stand there. -/
  required : Bool

def maxKeyLength : Nat := 1024

structure Reader where
  place : Cursor
  /-- The tokens so far, the latest first. -/
  tokens : List Token
  /-- The columns of the open block collections, innermost first, above minus one. -/
  indents : List Nat
  /-- Whether a key may start here. -/
  keyAllowed : Bool
  /-- The notes of the levels of brackets, innermost first; the outermost is block style. -/
  notes : List (Option KeyNote)

namespace Reader

def start (cs : List Char) : Reader := ⟨.ofText cs, [], [], true, [none]⟩

def inFlow (r : Reader) : Bool :=
  1 < r.notes.length

def indent (r : Reader) : Int :=
  match r.indents with
  | [] => -1
  | column :: _ => column

def column (r : Reader) : Nat :=
  r.place.column

def add (t : Token) (r : Reader) : Reader :=
  { r with tokens := t :: r.tokens }

def addAt (position : Nat) (ts : List Token) (r : Reader) : Reader :=
  let later := r.tokens.length - position
  { r with tokens := r.tokens.take later ++ ts.reverse ++ r.tokens.drop later }

def moveTo (place : Cursor) (r : Reader) : Reader :=
  { r with place := place }

def skip (n : Nat) (r : Reader) : Reader :=
  { r with place := r.place.skip n }

def allowKey (allowed : Bool) (r : Reader) : Reader :=
  { r with keyAllowed := allowed }

def KeyNote.holds (note : KeyNote) (place : Cursor) : Bool :=
  note.mark.line == place.mark.line && place.mark.offset ≤ note.mark.offset + maxKeyLength

/-- Drops the notes that have lapsed; a lapsed note of a required key is an error. -/
def dropLapsed? (r : Reader) : Option Reader :=
  let lapsed (note : Option KeyNote) : Bool := note.any fun n => !KeyNote.holds n r.place
  if r.notes.any fun note => lapsed note && note.any KeyNote.required then none
  else some { r with notes := r.notes.map fun note => if lapsed note then none else note }

/-- Gives up the note of the innermost level, which must not be of a required key. -/
def forgetKey? (r : Reader) : Option Reader :=
  match r.notes with
  | [] => none
  | note :: rest =>
      if note.any KeyNote.required then none else some { r with notes := none :: rest }

def noteKey? (r : Reader) : Option Reader :=
  if !r.keyAllowed then some r
  else
    (r.forgetKey?).map fun r =>
      let required := !r.inFlow && r.indent == (r.column : Int)
      { r with notes := some ⟨r.tokens.length, r.place.mark, required⟩ :: r.notes.tail }

/-- Opens a block collection at a column, if that is further in than the innermost one. -/
def openBlock (column : Nat) (t : Token) (r : Reader) : Reader :=
  if r.inFlow || (column : Int) ≤ r.indent then r
  else { r with indents := column :: r.indents, tokens := t :: r.tokens }

def closeBlocks (column : Int) (r : Reader) : Reader :=
  if r.inFlow then r
  else
    let closed := r.indents.takeWhile fun (i : Nat) => decide (column < (i : Int))
    { r with
      indents := r.indents.drop closed.length
      tokens := closed.map (fun _ => Token.blockEnd) ++ r.tokens }

/-- The place of the next token, and whether a key may start there. Tabs count as blanks only
where no key may start. -/
def nextPlace (inFlow : Bool) (keyAllowed inComment : Bool) (m : Mark) :
    List Char → Bool × Cursor
  | [] => (keyAllowed, ⟨[], m⟩)
  | c :: rest =>
      if isBreak c then
        nextPlace inFlow (keyAllowed || !inFlow) false (m.after c) rest
      else if inComment || c = ' ' || (c = '\t' && (inFlow || !keyAllowed)) ||
          (c = '\ufeff' && m.column == 0) then
        nextPlace inFlow keyAllowed inComment (m.after c) rest
      else if c = '#' then nextPlace inFlow keyAllowed true (m.after c) rest
      else (keyAllowed, ⟨c :: rest, m⟩)

def skipToToken (r : Reader) : Reader :=
  let p := r.place
  let (allowed, place) := nextPlace r.inFlow r.keyAllowed false p.mark p.rest
  { r with place := place, keyAllowed := allowed }

/-- A bracket that opens a flow collection, which may be a key as a whole. -/
def openFlow? (t : Token) (r : Reader) : Option Reader :=
  (r.noteKey?).map fun r => ({ r with notes := none :: r.notes }.allowKey true |>.skip 1).add t

def closeFlow? (t : Token) (r : Reader) : Option Reader :=
  (r.forgetKey?).map fun r =>
    let r := if r.inFlow then { r with notes := r.notes.tail } else r
    ((r.allowKey false).skip 1).add t

def comma? (r : Reader) : Option Reader :=
  (r.forgetKey?).map fun r => ((r.allowKey true).skip 1).add .flowEntry

/-- A dash or a question mark, which in block style opens a collection where it stands. -/
def collectionMark? (opening t : Token) (keyAfter : Bool) (r : Reader) : Option Reader :=
  if !r.inFlow && !r.keyAllowed then none
  else
    ((r.openBlock r.column opening).forgetKey?).map fun r =>
      ((r.allowKey keyAfter).skip 1).add t

/-- A colon: the end of a key that has been noted, or of one with a question mark, or of none. -/
def value? (r : Reader) : Option Reader :=
  match r.notes with
  | some note :: rest =>
      let opens := !r.inFlow && r.indent < (note.mark.column : Int)
      let r := r.addAt note.position (if opens then [.blockMappingStart, .key] else [.key])
      let r := if opens then { r with indents := note.mark.column :: r.indents } else r
      some ((({ r with notes := none :: rest }.allowKey false).skip 1).add .value)
  | _ =>
      if !r.inFlow && !r.keyAllowed then none
      else
        let r := r.openBlock r.column .blockMappingStart
        some (((r.allowKey (!r.inFlow)).skip 1).add .value)

def keyLike? (read : Cursor → Option (Token × Cursor)) (r : Reader) : Option Reader := do
  let r ← r.noteKey?
  let (t, after) ← read r.place
  pure (((r.allowKey false).moveTo after).add t)

def plain? (r : Reader) : Option Reader := do
  let r ← r.noteKey?
  let (f, after) ← Plain.read? ⟨r.inFlow, r.indent + 1⟩ r.place
  pure (((r.allowKey f.broken).moveTo after).add (.scalar true f.result))

def quoted? (single : Bool) (r : Reader) : Option Reader :=
  r.keyLike? fun c => (Quoted.read? single c).map fun (s, after) => (.scalar false s, after)

def block? (literal : Bool) (r : Reader) : Option Reader := do
  let r ← r.forgetKey?
  let (s, after) ← Block.read? literal r.indent r.place
  pure (((r.allowKey true).moveTo after).add (.scalar false s))

def betweenDocuments? (read : Cursor → Option (Token × Cursor)) (r : Reader) : Option Reader := do
  let r ← (r.closeBlocks (-1)).forgetKey?
  let (t, after) ← read r.place
  pure (((r.allowKey false).moveTo after).add t)

def isIndicator (c : Char) : Bool :=
  c = '-' || c = '?' || c = ':' || c = ',' || c = '[' || c = ']' || c = '\x7b' || c = '\x7d' ||
    c = '#' || c = '&' || c = '*' || c = '!' || c = '|' || c = '>' || c = '\'' || c = '"' ||
    c = '%' || c = '@' || c = '\x60'

/-- Whether a plain scalar starts with a character: one that is neither an indicator nor a tab, or a
dash, question mark or colon with something after it. -/
def startsPlain (inFlow : Bool) (c : Char) (rest : List Char) : Bool :=
  (!isIndicator c && !isSpacing c) || (c = '-' && !rest.head?.any isSpacing) ||
    (!inFlow && (c = '?' || c = ':') && !endsWord rest)

def readToken? (c : Char) (rest : List Char) (r : Reader) : Option Reader :=
  if r.column == 0 && c = '%' then r.betweenDocuments? Tag.readDirective?
  else if r.column == 0 && isDocumentMark (c :: rest) then
    r.betweenDocuments? fun p => some (if c = '-' then .documentStart else .documentEnd, p.skip 3)
  else if c = '[' then r.openFlow? .flowSequenceStart
  else if c = '\x7b' then r.openFlow? .flowMappingStart
  else if c = ']' then r.closeFlow? .flowSequenceEnd
  else if c = '\x7d' then r.closeFlow? .flowMappingEnd
  else if c = ',' then r.comma?
  else if c = '-' && endsWord rest then r.collectionMark? .blockSequenceStart .blockEntry true
  else if c = '?' && (r.inFlow || endsWord rest) then
    r.collectionMark? .blockMappingStart .key (!r.inFlow)
  else if c = ':' && (r.inFlow || endsWord rest) then r.value?
  else if c = '*' then
    r.keyLike? fun p => (Tag.readName? p).map fun (name, after) => (.alias name, after)
  else if c = '&' then
    r.keyLike? fun p => (Tag.readName? p).map fun (name, after) => (.anchor name, after)
  else if c = '!' then r.keyLike? (Tag.read? r.inFlow)
  else if c = '|' && !r.inFlow then r.block? true
  else if c = '>' && !r.inFlow then r.block? false
  else if c = '\'' then r.quoted? true
  else if c = '"' then r.quoted? false
  else if startsPlain r.inFlow c rest then r.plain?
  else none

/-- The tokens at the end of the text, which counts as the start of a line. -/
def finish? (r : Reader) : Option (List Token) :=
  ((r.closeBlocks (-1)).forgetKey?).map fun r => (Token.streamEnd :: r.tokens).reverse

/-- Reads on to the end. Every token takes at least one character, so the length of the text bounds
how many there are. -/
def run? : (bound : Nat) → Reader → Option (List Token)
  | 0, _ => none
  | bound + 1, r => do
      let r ← r.skipToToken.dropLapsed?
      let r := r.closeBlocks r.column
      match r.place.rest with
      | [] => r.finish?
      | c :: rest => (r.readToken? c rest).bind (run? bound)

end Reader

def tokens? (cs : List Char) : Option (List Token) :=
  if !cs.all isPermitted then none
  else
    let cs := normalizeBreaks cs
    (Reader.start cs).run? (cs.length + 1)

end ContentForms.Yaml
