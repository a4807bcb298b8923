import ContentForms.Text.Blank
import ContentForms.Url.Host

/-!
Absolute URLs. Of a URL only the part up to the port can be malformed: a scheme has to be there, and
an authority, where the scheme asks for one or two slashes announce it, needs a host and a port in
range. Everything after that is accepted. Blanks and control characters around a URL and line breaks
and tabs inside it do not count.
-/

namespace ContentForms.Url

inductive SchemeKind where
  /-- A scheme of the web: any number of slashes, then an authority. -/
  | web
  | file
  /-- Any other scheme: an authority only after two slashes. -/
  | other
  deriving DecidableEq

def SchemeKind.ofScheme (scheme : String) : SchemeKind :=
  if ["http", "https", "ws", "wss", "ftp"].contains scheme then .web
  else if scheme = "file" then .file
  else .other

def isSchemeChar (c : Char) : Bool :=
  c.isAlphanum || c = '+' || c = '-' || c = '.'

/-- The scheme in lower case, and what follows the colon. -/
def cutScheme? (cs : List Char) : Option (List Char × List Char) :=
  match Text.splitFirst? ':' cs with
  | some (first :: more, rest) =>
      if first.isAlpha && more.all isSchemeChar then some ((first :: more).map Char.toLower, rest)
      else none
  | _ => none

def endsAuthority (kind : SchemeKind) (c : Char) : Bool :=
  c = '/' || c = '?' || c = '#' || (c = '\\' && kind != .other)

/-- The text up to a port or the end of the host; a colon in brackets does not end it. -/
def cutHost (kind : SchemeKind) (inBrackets : Bool) : List Char → List Char × List Char
  | [] => ([], [])
  | c :: rest =>
      if endsAuthority kind c || (c = ':' && !inBrackets) then ([], c :: rest)
      else
        let (host, after) := cutHost kind (c = '[' || (c ≠ ']' && inBrackets)) rest
        (c :: host, after)

/-- Whether the text after a host, if it starts with a colon, is a port in range and then the end of
the authority. -/
def isPortThenEnd : List Char → Bool
  | ':' :: rest =>
      Text.ofDigits 10 (rest.takeWhile Char.isDigit) ≤ 65535 &&
        (rest.dropWhile Char.isDigit).head?.all fun c => c = '/' || c = '\\' || c = '?' || c = '#'
  | _ => true

/-- Whether a text starts with a host and a port. Credentials need a host to belong to. -/
def isHostAndPort (kind : SchemeKind) (credentials : Bool) (cs : List Char) : Bool :=
  let (host, after) := cutHost kind false cs
  if host.isEmpty then kind == .other && !credentials && after.head? != some ':'
  else
    (if kind == .other then isOpaqueHost host else isWebHost host) && isPortThenEnd after

/-- Whether a text starts with an authority. The credentials reach up to the last at sign; a colon
alone is none. -/
def isAuthority (kind : SchemeKind) (cs : List Char) : Bool :=
  let authority := cs.takeWhile fun c => !endsAuthority kind c
  let after := cs.dropWhile fun c => !endsAuthority kind c
  match Text.splitLast? '@' authority with
  | none => isHostAndPort kind false cs
  | some (credentials, rest) =>
      !(credentials.isEmpty && rest.isEmpty && !after.isEmpty) &&
        isHostAndPort kind (!credentials.isEmpty && credentials != [':']) (rest ++ after)

def isSlash (c : Char) : Bool :=
  c = '/' || c = '\\'

/-- A letter and a colon or bar, which name a drive and not a host. -/
def isDrive : List Char → Bool
  | [a, b] => a.isAlpha && (b = ':' || b = '|')
  | _ => false

/-- Whether the part after `file:` is well formed: the host after two slashes may be missing. -/
def isFilePart : List Char → Bool
  | a :: b :: rest =>
      if isSlash a && isSlash b then
        let host := rest.takeWhile fun c => !endsAuthority .file c
        host.isEmpty || isDrive host || isWebHost host
      else true
  | _ => true

def isSchemePart (kind : SchemeKind) (cs : List Char) : Bool :=
  match kind with
  | .file => isFilePart cs
  | .web => isAuthority .web (cs.dropWhile isSlash)
  | .other =>
      match cs with
      | '/' :: '/' :: rest => isAuthority .other rest
      | _ => true

/-- The text that counts: without control characters and blanks around it, and without line breaks
and tabs. -/
def significant (cs : List Char) : List Char :=
  (Text.trimBy (·.toNat ≤ 0x20) cs).filter fun c => !(c = '\t' || c = '\n' || c = '\r')

def scheme? (s : String) : Option String := do
  let (scheme, rest) ← cutScheme? (significant s.toList)
  let scheme := String.ofList scheme
  if isSchemePart (.ofScheme scheme) rest then some scheme else none

end ContentForms.Url
