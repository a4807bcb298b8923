import ContentForms.Text.Digits

/-!
The tokens of YAML. Indentation has become explicit here: a block collection starts and ends with
a token of its own, and the key of a mapping is marked even where the text has only the colon
after it. Anchors, aliases and tags carry their names, scalars their text after folding and
escapes.
-/

namespace ContentForms.Yaml

/-- The suffix of a tag; nothing if its escapes do not spell a text. -/
abbrev TagSuffix := Option String

inductive Token where
  | version (major minor : Nat)
  /-- Declares what a tag handle stands for. -/
  | tagHandle (handle expansion : String)
  | documentStart
  | documentEnd
  | blockSequenceStart
  | blockMappingStart
  | blockEnd
  | flowSequenceStart
  | flowSequenceEnd
  | flowMappingStart
  | flowMappingEnd
  | blockEntry
  | flowEntry
  | key
  | value
  | alias (name : String)
  | anchor (name : String)
  | tag (handle : String) (suffix : TagSuffix)
  | scalar (plain : Bool) (text : String)
  | streamEnd
  deriving DecidableEq

/-- Line breaks: the line feed, to which other usual breaks are normalized, and two separators that
are kept as they are. -/
def isBreak (c : Char) : Bool :=
  c = '\n' || c = '\u2028' || c = '\u2029'

def isSpacing (c : Char) : Bool :=
  c = ' ' || c = '\t'

def endsWord : List Char → Bool
  | [] => true
  | c :: _ => isSpacing c || isBreak c

def isNameChar (c : Char) : Bool :=
  c.isAlphanum || c = '_' || c = '-'

/-- The characters a text may have: no control characters but tab and breaks. -/
def isPermitted (c : Char) : Bool :=
  let n := c.toNat
  n == 9 || n == 10 || n == 13 || (0x20 ≤ n && n ≤ 0x7E) || n == 0x85 ||
    (0xA0 ≤ n && n ≤ 0xFFFD) || 0x10000 ≤ n

/-- Writes every carriage return, with or without a line feed, and every next-line character as a
line feed. -/
def normalizeBreaks : List Char → List Char
  | '\r' :: '\n' :: rest => '\n' :: normalizeBreaks rest
  | c :: rest => (if c = '\r' || c = '\u0085' then '\n' else c) :: normalizeBreaks rest
  | [] => []

def isDocumentMark : List Char → Bool
  | '-' :: '-' :: '-' :: rest | '.' :: '.' :: '.' :: rest => endsWord rest
  | _ => false

end ContentForms.Yaml
