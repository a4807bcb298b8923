import ContentForms.Text.Split

/-!
Media types as headers give them: a type, a subtype, and parameters after semicolons, whose values
are words or quoted texts. All but the values of parameters is in lower case. What follows the
last plus sign of a subtype is its suffix, which names the syntax that the subtype is built on.
-/

namespace ContentForms.Http

structure MediaType where
  type : String
  subtype : String
  suffix : Option String
  parameters : List (String × String)
  deriving DecidableEq

namespace MediaType

def isTokenChar (c : Char) : Bool :=
  c.isAlphanum || c = '!' || c = '#' || c = '$' || c = '%' || c = '&' || c = '\'' || c = '*' ||
    c = '+' || c = '-' || c = '.' || c = '^' || c = '_' || c = '\x60' || c = '|' || c = '~'

def isTextChar (c : Char) : Bool :=
  (' ' ≤ c && c ≤ '~') || c = '\t'

/-- What has been read of a parameter, the latest character first. -/
inductive Partial where
  | name (read : List Char)
  | value (name read : List Char)
  | quoted (name read : List Char)
  /-- After a closing quote. -/
  | closed

structure Scan where
  /-- The complete parameters, the latest first. -/
  done : List (String × String)
  current : Partial

def lower (cs : List Char) : String :=
  String.ofList (cs.map Char.toLower)

def Scan.close (s : Scan) (name value : List Char) (next : Partial) : Scan :=
  ⟨(lower name.reverse, String.ofList value.reverse) :: s.done, next⟩

/-- One character of the parameters. A quote closes a text only after at least one character. -/
def Scan.step (s : Scan) (c : Char) : Option Scan :=
  match s.current with
  | .name read =>
      if c = ' ' && read.isEmpty then some s
      else if isTokenChar c then some ⟨s.done, .name (c :: read)⟩
      else if c = '=' && !read.isEmpty then some ⟨s.done, .value read []⟩
      else none
  | .value name read =>
      if c = '"' && read.isEmpty then some ⟨s.done, .quoted name []⟩
      else if isTokenChar c then some ⟨s.done, .value name (c :: read)⟩
      else if c = ';' && !read.isEmpty then some (s.close name read (.name []))
      else none
  | .quoted name read =>
      if c = '"' && !read.isEmpty then some (s.close name read .closed)
      else if c = '\t' then none
      else some ⟨s.done, .quoted name (c :: read)⟩
  | .closed =>
      if c = ';' then some ⟨s.done, .name []⟩
      else if c = ' ' then some s
      else none

def Scan.finish? (s : Scan) : Option (List (String × String)) :=
  match s.current with
  | .name [] | .closed => some s.done.reverse
  | .value name read => some (s.close name read .closed).done.reverse
  | .name _ | .quoted _ _ => none

def readParameters? (cs : List Char) : Option (List (String × String)) :=
  (cs.foldlM Scan.step ⟨[], .name []⟩).bind Scan.finish?

/-- The subtype and the suffix; a plus sign at the start separates nothing. -/
def splitSuffix (cs : List Char) : String × Option String :=
  match Text.splitLast? '+' cs with
  | some (stem, suffix) =>
      if stem.isEmpty then (lower cs, none) else (lower stem, some (lower suffix))
  | none => (lower cs, none)

def read? (header : String) : Option MediaType :=
  let cs := header.toList
  let type := cs.takeWhile isTokenChar
  match cs.dropWhile isTokenChar with
  | '/' :: rest =>
      if type.isEmpty || !header.toList.all isTextChar then none
      else
        let (subtype, suffix) := splitSuffix (rest.takeWhile isTokenChar)
        match rest.dropWhile isTokenChar with
        | [] => some ⟨lower type, subtype, suffix, []⟩
        | c :: parameters =>
            if (c = ';' || c = ' ') && (rest.head?.any isTokenChar) then
              (readParameters? parameters).map (⟨lower type, subtype, suffix, ·⟩)
            else none
  | _ => none

def isJson (m : MediaType) : Bool :=
  m.type = "application" && (m.subtype = "json" || m.suffix = some "json")

def formBoundary? (m : MediaType) : Option String :=
  if m.type = "multipart" && m.subtype = "form-data" then
    (m.parameters.find? fun parameter => parameter.1 = "boundary").map Prod.snd
  else none

end MediaType

end ContentForms.Http
