import ContentForms.Yaml.Token.Cursor

/-!
Names that start with an indicator: anchors and aliases, tags, and directives. A tag is written in
full between angle brackets, with a handle that is short for its beginning, or as an exclamation
mark and a name of its own; escapes in it are bytes of UTF-8.
-/

namespace ContentForms.Yaml.Tag

/-- The characters of a tag that are not special. In angle brackets and in declarations commas and
brackets are among them. -/
def isTagChar (withMarks : Bool) (c : Char) : Bool :=
  isNameChar c || c = ';' || c = '/' || c = '?' || c = ':' || c = '@' || c = '&' || c = '=' ||
    c = '+' || c = '$' || c = '.' || c = '%' || c = '!' || c = '~' || c = '*' || c = '\'' ||
    c = '(' || c = ')' || (withMarks && (c = ',' || c = '[' || c = ']'))

def sequenceLength? (byte : Nat) : Option Nat :=
  if byte < 0x80 then some 1
  else if byte < 0xC0 then none
  else if byte < 0xE0 then some 2
  else if byte < 0xF0 then some 3
  else if byte < 0xF8 then some 4
  else none

/-- The bytes of a tag. Escaped bytes form whole sequences: `missing` bytes of the current one have
to follow at once. -/
def tagBytes? (missing : Nat) : List Char → Option (List UInt8)
  | '%' :: a :: b :: rest =>
      if Text.isHexDigit a && Text.isHexDigit b then
        let byte := Text.ofDigits 16 [a, b]
        let missing? :=
          if missing = 0 then (sequenceLength? byte).map (· - 1)
          else if byte / 0x40 = 2 then some (missing - 1)
          else none
        missing?.bind fun m => (tagBytes? m rest).map (UInt8.ofNat byte :: ·)
      else none
  | c :: rest =>
      if missing = 0 && c ≠ '%' then
        (tagBytes? 0 rest).map ((String.singleton c).toUTF8.toList ++ ·)
      else none
  | [] => if missing = 0 then some [] else none

/-- The text of the tag characters that stand here, after a given beginning, and the place after
them. -/
def readUri? (withMarks : Bool) (beginning : List Char) (c : Cursor) :
    Option (TagSuffix × Cursor) :=
  let (chars, after) := c.takeWhile (isTagChar withMarks)
  (tagBytes? 0 chars).map fun bytes =>
    ((String.fromUTF8? bytes.toByteArray).map (String.ofList beginning ++ ·), after)

/-- The exclamation mark and name characters that stand here, with the closing exclamation mark if
there is one. -/
def readHandle? (c : Cursor) : Option (List Char × Cursor) :=
  match c.rest with
  | '!' :: _ =>
      let (name, after) := (c.skip 1).takeWhile isNameChar
      if after.rest.head? = some '!' then some ('!' :: (name ++ ['!']), after.skip 1)
      else some ('!' :: name, after)
  | _ => none

def isClosedHandle (handle : List Char) : Bool :=
  1 < handle.length && handle.getLast? == some '!'

def tagEnds (inFlow : Bool) (c : Cursor) : Bool :=
  endsWord c.rest || (inFlow && c.rest.head? == some ',')

/-- The tag between angle brackets, of which the first stands after the exclamation mark. -/
def readVerbatim? (c : Cursor) : Option (Token × Cursor) := do
  let (suffix, after) ← readUri? true [] (c.skip 2)
  if suffix = some "" || after.rest.head? ≠ some '>' then none
  else pure (.tag "" suffix, after.skip 1)

/-- The tag with or without a handle. The exclamation mark alone is a tag without a handle. -/
def readShort? (c : Cursor) : Option (Token × Cursor) := do
  let (handle, after) ← readHandle? c
  if isClosedHandle handle then
    let (suffix, after) ← readUri? false [] after
    if suffix = some "" then none else pure (.tag (String.ofList handle) suffix, after)
  else
    let (suffix, after) ← readUri? false handle.tail after
    if suffix = some "" then pure (.tag "" (some "!"), after) else pure (.tag "!" suffix, after)

def read? (inFlow : Bool) (c : Cursor) : Option (Token × Cursor) := do
  let (token, after) ←
    match c.rest with
    | _ :: '<' :: _ => readVerbatim? c
    | _ => readShort? c
  if tagEnds inFlow after then pure (token, after) else none

def nameEnds (cs : List Char) : Bool :=
  endsWord cs || cs.head?.any fun c =>
    c = '?' || c = ':' || c = ',' || c = ']' || c = '\x7d' || c = '%' || c = '@' || c = '\x60'

def readName? (c : Cursor) : Option (String × Cursor) :=
  let (name, after) := (c.skip 1).takeWhile isNameChar
  if name.isEmpty || !nameEnds after.rest then none else some (String.ofList name, after)

def maxVersionDigits : Nat := 9

def readVersionNumber? (c : Cursor) : Option (Nat × Cursor) :=
  let (digits, after) := c.takeWhile Char.isDigit
  if digits.isEmpty || maxVersionDigits < digits.length then none
  else some (Text.ofDigits 10 digits, after)

def readVersion? (c : Cursor) : Option (Token × Cursor) := do
  let (major, after) ← readVersionNumber? c.skipSpacing
  if after.rest.head? ≠ some '.' then none
  else
    let (minor, after) ← readVersionNumber? (after.skip 1)
    pure (.version major minor, after)

def readTagHandle? (c : Cursor) : Option (Token × Cursor) := do
  let (handle, after) ← readHandle? c.skipSpacing
  if !(isClosedHandle handle || handle = ['!']) || !after.rest.head?.any isSpacing then none
  else
    let (expansion, after) ← readUri? true [] after.skipSpacing
    let expansion ← expansion
    if expansion.isEmpty || !endsWord after.rest then none
    else pure (.tagHandle (String.ofList handle) expansion, after)

/-- The directive whose percent sign stands here, and the place at the start of the next line. -/
def readDirective? (c : Cursor) : Option (Token × Cursor) := do
  let (name, after) := (c.skip 1).takeWhile isNameChar
  if !endsWord after.rest then none
  else
    let (token, after) ←
      if name = "YAML".toList then readVersion? after
      else if name = "TAG".toList then readTagHandle? after
      else none
    let atEnd ← after.endOfLine?
    pure (token, atEnd.next)

end ContentForms.Yaml.Tag
