import ContentForms.Http.MediaType

/-!
Forms whose parts are separated by a boundary. A part has headers, an empty line and its content,
which ends where the next boundary begins. Only the first part is of interest here; it is there as
soon as its headers are, even if the end of its content is missing.
-/

namespace ContentForms.Http

namespace Bytes

def cut? (pattern : List UInt8) : List UInt8 → Option (List UInt8 × List UInt8)
  | [] => if pattern.isEmpty then some ([], []) else none
  | b :: rest =>
      match List.isPrefixOf? pattern (b :: rest) with
      | some after => some ([], after)
      | none => (cut? pattern rest).map fun (before, after) => (b :: before, after)

theorem eq_append_of_isPrefixOf? {xs ys after : List UInt8}
    (h : List.isPrefixOf? xs ys = some after) : ys = xs ++ after := by
  induction xs generalizing ys with
  | nil =>
      cases ys <;> cases h <;> rfl
  | cons x xs ih =>
      cases ys with
      | nil => cases h
      | cons y ys =>
          have hstep : (if x == y then List.isPrefixOf? xs ys else none) = some after := h
          by_cases hxy : x = y
          · subst hxy
            have hrest : ys = xs ++ after := ih (by simpa using hstep)
            rw [hrest, List.cons_append]
          · simp [hxy] at hstep

theorem eq_of_cut? {pattern bytes before after : List UInt8}
    (h : cut? pattern bytes = some (before, after)) : bytes = before ++ pattern ++ after := by
  induction bytes generalizing before with
  | nil =>
      by_cases hp : pattern.isEmpty
      · simp_all [cut?]
      · simp [cut?, hp] at h
  | cons b rest ih =>
      cases hb : List.isPrefixOf? pattern (b :: rest) with
      | some found =>
          have hpair : [] = before ∧ found = after := by simpa [cut?, hb] using h
          obtain ⟨rfl, rfl⟩ := hpair
          simpa using eq_append_of_isPrefixOf? hb
      | none =>
          simp only [cut?, hb, Option.map_eq_some_iff, Prod.exists] at h
          obtain ⟨front, back, hrest, heq⟩ := h
          have hpair : b :: front = before ∧ back = after := by simpa using heq
          obtain ⟨rfl, rfl⟩ := hpair
          simp [ih hrest]

def pieces (mark : UInt8) : List UInt8 → List (List UInt8)
  | [] => [[]]
  | b :: rest =>
      if b = mark then [] :: pieces mark rest
      else match pieces mark rest with
        | [] => [[b]]
        | piece :: more => (b :: piece) :: more

def ofText (s : String) : List UInt8 :=
  s.toUTF8.toList

def toText? (bytes : List UInt8) : Option String :=
  String.fromUTF8? bytes.toByteArray

def isBlank (b : UInt8) : Bool :=
  b = 0x20 || b = 0x09 || b = 0x0a || b = 0x0c || b = 0x0d

/-- The bytes after one that is expected, which blanks may precede. -/
def after? (expected : UInt8) (bytes : List UInt8) : Option (List UInt8) :=
  match bytes.dropWhile isBlank with
  | b :: rest => if b = expected then some rest else none
  | [] => none

end Bytes

structure Part where
  headers : List (String × List UInt8)
  /-- The content, if its end is there. -/
  content : Option (List UInt8)

namespace Part

def maxHeaders : Nat := 32

def isNameByte (b : UInt8) : Bool :=
  b < 0x80 && MediaType.isTokenChar (Char.ofNat b.toNat)

def isValueByte (b : UInt8) : Bool :=
  (0x20 ≤ b && b ≠ 0x7f) || b = 0x09

def isSpacing (b : UInt8) : Bool :=
  b = 0x20 || b = 0x09

def trimValue (bytes : List UInt8) : List UInt8 :=
  ((bytes.dropWhile isSpacing).reverse.dropWhile isSpacing).reverse

/-- A line without the carriage return that may end it. -/
def chompLine (line : List UInt8) : List UInt8 :=
  if line.getLast? = some 0x0d then line.dropLast else line

/-- The header on a line, with its name in lower case. -/
def readHeader? (line : List UInt8) : Option (String × List UInt8) :=
  let name := line.takeWhile isNameByte
  match line.dropWhile isNameByte with
  | b :: value =>
      if b = 0x3a && !name.isEmpty && value.all isValueByte then
        some (MediaType.lower (name.map fun b => Char.ofNat b.toNat), trimValue value)
      else none
  | [] => none

def readHeaders? (lines : List (List UInt8)) : Option (List (String × List UInt8)) :=
  let lines := (lines.map chompLine).takeWhile fun line => !line.isEmpty
  if lines.length ≤ maxHeaders then lines.mapM readHeader? else none

def lineEnd : List UInt8 := [0x0d, 0x0a]

def dashes : List UInt8 := [0x2d, 0x2d]

/-- The first part of a form; nothing if it has none, or none with complete headers. Blanks may
stand after the boundary. -/
def first? (boundary : String) (body : List UInt8) : Option Part := do
  let mark := dashes ++ Bytes.ofText boundary
  let (_, rest) ← Bytes.cut? mark body
  let rest ← List.isPrefixOf? lineEnd (rest.dropWhile isSpacing)
  let (headerLines, rest) ← Bytes.cut? (lineEnd ++ lineEnd) rest
  let headers ← readHeaders? (Bytes.pieces 0x0a (headerLines ++ lineEnd))
  pure ⟨headers, (Bytes.cut? (lineEnd ++ mark) rest).map Prod.fst⟩

def header? (part : Part) (name : String) : Option (List UInt8) :=
  (part.headers.find? fun header => header.1 = name).map Prod.snd

/-- Whether an attribute may begin after these bytes. -/
def endsBefore (bytes : List UInt8) : Bool :=
  match bytes.getLast? with
  | none => true
  | some b => Bytes.isBlank b || b = 0x3b

/-- What follows the name of an attribute, where that stands for itself. -/
def afterAttribute? (name : List UInt8) (hname : name ≠ []) (header : List UInt8) :
    Option (List UInt8) :=
  match _h : Bytes.cut? name header with
  | none => none
  | some (before, after) =>
      if endsBefore before then some after else afterAttribute? name hname after
termination_by header.length
decreasing_by
  have hlength := congrArg List.length (Bytes.eq_of_cut? _h)
  have hpos := List.length_pos_iff.mpr hname
  simp only [List.length_append] at hlength
  omega

/-- A quoted value up to its closing quote, with the quotes that are escaped in it. -/
def readQuoted? : (escaped : Bool) → List UInt8 → Option (List UInt8)
  | _, [] => none
  | escaped, b :: rest =>
      if b = 0x22 && !escaped then some []
      else (readQuoted? (b = 0x5c) rest).map (b :: ·)

def unescape : List UInt8 → List UInt8
  | 0x5c :: 0x22 :: rest => 0x22 :: unescape rest
  | b :: rest => b :: unescape rest
  | [] => []

/-- The value of an attribute after its name: an equals sign, then a quoted text or a word. -/
def readValue? (bytes : List UInt8) : Option (List UInt8) := do
  let rest ← Bytes.after? 0x3d bytes
  match Bytes.after? 0x22 rest with
  | some quoted => (readQuoted? false quoted).map unescape
  | none => some ((rest.dropWhile Bytes.isBlank).takeWhile fun b => b ≠ 0x3b && b ≠ 0x20)

def fileNameAttribute : List UInt8 :=
  [0x66, 0x69, 0x6c, 0x65, 0x6e, 0x61, 0x6d, 0x65]

def fileName? (part : Part) : Option String := do
  let disposition ← part.header? "content-disposition"
  let value ← (afterAttribute? fileNameAttribute (by decide) disposition).bind readValue?
  Bytes.toText? value

def mediaType? (part : Part) : Option MediaType :=
  ((part.header? "content-type").bind Bytes.toText?).bind MediaType.read?

end Part

end ContentForms.Http
