import ContentForms.Yaml.Token.Cursor

/-!
Block scalars, whose lines are told by indentation alone. The header says whether lines are kept
or folded, what becomes of the breaks at the end, and perhaps how far the lines are indented;
without that the first line that is not empty decides. A folded break becomes a space unless one
of the lines beside it starts with a blank.
-/

namespace ContentForms.Yaml.Block

inductive Chomping where
  | strip
  /-- One break is kept. -/
  | clip
  | keep
  deriving DecidableEq

structure Header where
  chomping : Chomping
  /-- Further indentation against the surrounding collection. -/
  increment : Option Nat

def chomping? : Char → Option Chomping
  | '+' => some .keep
  | '-' => some .strip
  | _ => none

def increment? (c : Char) : Option Nat :=
  if c.isDigit && c ≠ '0' then some (Text.digitValue c) else none

/-- The two indicators of a header, in either order, and how many characters they are. -/
def readHeader : List Char → Header × Nat
  | a :: b :: _ =>
      match chomping? a, increment? a, chomping? b, increment? b with
      | some ch, _, _, some n => (⟨ch, some n⟩, 2)
      | some ch, _, _, none => (⟨ch, none⟩, 1)
      | none, some n, some ch, _ => (⟨ch, some n⟩, 2)
      | none, some n, none, _ => (⟨.clip, some n⟩, 1)
      | none, none, _, _ => (⟨.clip, none⟩, 0)
  | [a] =>
      match chomping? a, increment? a with
      | some ch, _ => (⟨ch, none⟩, 1)
      | none, some n => (⟨.clip, some n⟩, 1)
      | none, none => (⟨.clip, none⟩, 0)
  | [] => (⟨.clip, none⟩, 0)

/-- The greatest column that spaces reach on the empty lines and the first other one; a tab among
those spaces is refused. -/
def spacesBefore? (column greatest : Nat) : List Char → Option Nat
  | [] => some (max column greatest)
  | c :: rest =>
      if c = ' ' then spacesBefore? (column + 1) greatest rest
      else if c = '\t' then none
      else if isBreak c then spacesBefore? 0 (max column greatest) rest
      else some (max column greatest)

/-- A block scalar that is being read. The sequences are backwards. -/
structure Lines where
  text : List Char
  /-- The break after the last line. -/
  lastBreak : Option Char
  /-- The breaks of the empty lines after that. -/
  emptyLines : List Char
  /-- Whether the last line starts with a blank. -/
  spaced : Bool

def Lines.start : Lines := ⟨[], none, [], false⟩

def Lines.open (literal : Bool) (l : Lines) (c : Char) : Lines :=
  let folded := !literal && l.lastBreak == some '\n' && !l.spaced && !isSpacing c
  let text :=
    if folded then if l.emptyLines.isEmpty then ' ' :: l.text else l.text
    else l.lastBreak.toList ++ l.text
  ⟨l.emptyLines ++ text, none, [], isSpacing c⟩

def Lines.close (chomping : Chomping) (l : Lines) : String :=
  let text := match chomping with
    | .strip => l.text
    | .clip => l.lastBreak.toList ++ l.text
    | .keep => l.emptyLines ++ (l.lastBreak.toList ++ l.text)
  String.ofList text.reverse

def readFrom (literal : Bool) (indent : Nat) (l : Lines) (inLine : Bool) (m : Mark) :
    List Char → Option (Lines × Cursor)
  | [] => some (l, ⟨[], m⟩)
  | c :: rest =>
      if inLine then
        if isBreak c then
          readFrom literal indent { l with lastBreak := some c } false (m.after c) rest
        else readFrom literal indent { l with text := c :: l.text } true (m.after c) rest
      else if m.column < indent && c = ' ' then readFrom literal indent l false (m.after c) rest
      else if m.column < indent && c = '\t' then none
      else if isBreak c then
        readFrom literal indent { l with emptyLines := c :: l.emptyLines } false (m.after c) rest
      else if m.column = indent then
        let l := l.open literal c
        readFrom literal indent { l with text := c :: l.text } true (m.after c) rest
      else some (l, ⟨c :: rest, m⟩)

/-- The scalar whose indicator stands here, inside a collection of the given indentation, and the
place after its lines. -/
def read? (literal : Bool) (parent : Int) (c : Cursor) : Option (String × Cursor) := do
  let c := c.skip 1
  let (header, length) := readHeader c.rest
  let atEnd ← (c.skip length).endOfLine?
  let c := atEnd.next
  let least := (max (parent + 1) 1).toNat
  let indent ← match header.increment with
    | some n => some ((max parent 0).toNat + n)
    | none => (spacesBefore? c.column 0 c.rest).map (max · least)
  let (l, after) ← readFrom literal indent .start false c.mark c.rest
  pure (l.close header.chomping, after)

end ContentForms.Yaml.Block
