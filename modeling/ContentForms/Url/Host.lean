import ContentForms.Text.Split
import ContentForms.Unicode.Direction
import ContentForms.Unicode.HostMapping
import ContentForms.Unicode.Joining
import ContentForms.Unicode.Marks
import ContentForms.Unicode.Normal
import ContentForms.Url.Ipv4
import ContentForms.Url.Ipv6
import ContentForms.Url.Percent
import ContentForms.Url.Punycode

/-!
Hosts of URLs. The host of a web address is an IPv6 address in brackets, an IPv4 address, or a
name; the host of any other URL is an IPv6 address or any text without a few separators.

A name may be international. Its characters are mapped one by one, the result is composed, and the
labels between its dots are checked: a label in Punycode is read back and must be what mapping and
composing would have left alone; none begins with a mark; a joiner stands only where the script
has a use for it; and if any label runs from right to left, all of them keep the rule for mixed
directions. Labels may be empty and of any length up to the bounds below.
-/

namespace ContentForms.Url

/-- The longest label that is written in Punycode, and the longest Punycode that is read. -/
def maxEncodedLabel : Nat := 1000
def maxDecodedLabel : Nat := 2000

/-- Characters that end a host wherever they appear, or stand for nothing in one. -/
def isForbiddenInHost (c : Char) : Bool :=
  c = '\x00' || c = '\t' || c = '\n' || c = '\r' || c = ' ' || c = '#' || c = '/' || c = ':' ||
    c = '<' || c = '>' || c = '?' || c = '@' || c = '[' || c = '\\' || c = ']' || c = '^' || c = '|'

/-- A host name has no control characters and no percent sign either. -/
def isForbiddenInName (c : Char) : Bool :=
  isForbiddenInHost c || c.toNat < 0x20 || c = '%' || c = '\x7f'

/-- The characters that a character of a name stands for; nothing if no name has it. -/
def mapChar? (c : Char) : Option (List Char) :=
  let n := c.toNat
  if n < 0x80 then some [c.toLower]
  else if Unicode.ignoredInHosts.contains c then some []
  else if Unicode.refusedInHosts.contains c then none
  else match Unicode.mappedInHosts.find? n with
    | none => some [c]
    | some ⟨low, _, [value]⟩ => some [Char.ofNat (value + (n - low))]
    | some ⟨_, _, values⟩ => some (values.map Char.ofNat)

def mapName? (cs : List Char) : Option (List Char) :=
  (cs.mapM mapChar?).map fun mapped => Unicode.nfc mapped.flatten

def isAsciiLabel (label : List Char) : Bool :=
  label.all (·.toNat < 0x80)

/-- The label that Punycode after `xn--` stands for. It has other characters than ASCII, all of
which stand for themselves, and is composed. -/
def decodeLabel? (cs : List Char) : Option (List Char) :=
  if cs.isEmpty || cs.getLast? == some '-' || maxDecodedLabel < cs.length then none
  else match Punycode.decode? cs with
    | none => none
    | some label =>
        if !isAsciiLabel label && label.all (fun c => mapChar? c == some [c]) &&
            Unicode.nfc label == label then some label
        else none

def labelText? (label : List Char) : Option (List Char) :=
  match Text.dropStart? "xn--" label with
  | some cs => decodeLabel? cs
  | none => if isAsciiLabel label || label.length ≤ maxEncodedLabel then some label else none

def nonJoiner : Char := '\u200c'
def joiner : Char := '\u200d'

/-- Whether each joiner follows a virama, or, if it keeps letters apart, stands between letters that
would join. The text before is given backwards. -/
def joinersInPlace (before : List Char) : List Char → Bool
  | [] => true
  | c :: rest =>
      let afterVirama := before.head?.any Unicode.isVirama
      let here :=
        if c = joiner then afterVirama
        else if c = nonJoiner then
          afterVirama ||
            ((before.dropWhile Unicode.transparent.contains).head?.any Unicode.joinsNext &&
              (rest.dropWhile Unicode.transparent.contains).head?.any Unicode.joinsPrevious)
        else true
      here && joinersInPlace (c :: before) rest

def isWellFormed (label : List Char) : Bool :=
  !label.head?.any Unicode.isMark && joinersInPlace [] label

def isRightToLeft (c : Char) : Bool :=
  0x80 ≤ c.toNat &&
    match Unicode.direction c with
    | .rightToLeft | .arabicLetter | .arabicNumber => true
    | _ => false

/-- The directions of a label after its first character, without the marks that it ends in. -/
def directionsAfterFirst (label : List Char) : List Unicode.Direction :=
  (((label.tail.map Unicode.direction).reverse).dropWhile (· == .nonspacingMark)).reverse

/-- The rule for a label of a name of mixed directions: it starts with a letter, keeps to characters
that agree with the direction of that letter, does not end in a separator, and from right to left it
does not mix the two kinds of digits. -/
def keepsDirection (label : List Char) : Bool :=
  match label with
  | [] => true
  | first :: _ =>
      let ds := directionsAfterFirst label
      match Unicode.direction first with
      | .leftToRight =>
          ds.all (fun d => d == .leftToRight || d == .europeanNumber || d == .neutral ||
            d == .nonspacingMark) &&
          ds.getLast?.all (fun d => d == .leftToRight || d == .europeanNumber)
      | .rightToLeft | .arabicLetter =>
          ds.all (fun d => d == .rightToLeft || d == .arabicLetter || d == .arabicNumber ||
            d == .europeanNumber || d == .neutral || d == .nonspacingMark) &&
          ds.getLast?.all (fun d => d == .rightToLeft || d == .arabicLetter ||
            d == .europeanNumber || d == .arabicNumber) &&
          !(ds.contains .europeanNumber && ds.contains .arabicNumber)
      | _ => false

def nameLabels? (cs : List Char) : Option (List (List Char)) := do
  let mapped ← mapName? cs
  if mapped.any isForbiddenInName then none
  let labels := Text.pieces '.' mapped
  let texts ← labels.mapM labelText?
  let wellFormed := texts.all fun label => isAsciiLabel label || isWellFormed label
  let directed := !texts.any (·.any isRightToLeft) || texts.all keepsDirection
  if wellFormed && directed then some labels else none

/-- The text between the brackets of an IPv6 address, for a host that starts with one. -/
def bracketed? : List Char → Option (List Char)
  | '[' :: rest => if rest.getLast? = some ']' then some rest.dropLast else some []
  | _ => none

def isWebHost (cs : List Char) : Bool :=
  match bracketed? cs with
  | some inner => Ipv6.isAddress inner
  | none =>
      match (Percent.decode? cs).bind fun text => nameLabels? text.toList with
      | none => false
      | some labels =>
          labels != [[]] && (!Ipv4.endsInNumber labels || Ipv4.isAddress labels)

def isOpaqueHost (cs : List Char) : Bool :=
  match bracketed? cs with
  | some inner => Ipv6.isAddress inner
  | none => !cs.any isForbiddenInHost

end ContentForms.Url
