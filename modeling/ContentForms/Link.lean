import ContentForms.Text.Blank
import ContentForms.Url.Absolute

/-!
Links. An editor may put behind a button an anchor of the page, a relative path or a web address;
the forms are tried in this order after trimming. A text that is an absolute URL of another
scheme, such as a mail address or a script, is no link even where it would pass as a path.
-/

namespace ContentForms.Link

def isAbsoluteUrl (s : String) : Bool :=
  (Url.scheme? s).isSome

def isHttpUrl (s : String) : Bool :=
  Url.scheme? s = some "http" || Url.scheme? s = some "https"

def isPathChar (c : Char) : Bool :=
  c.isAlphanum || c = '-' || c = '.' || c = '_' || c = '~' || c = '/'

/-- A relative path that starts with a letter or digit. -/
def isBarePath : List Char → Bool
  | [] => false
  | c :: rest => c.isAlphanum && rest.all isPathChar

def startsWith (beginning : String) (cs : List Char) : Bool :=
  beginning.toList.isPrefixOf cs

def isLink (s : String) : Bool :=
  let trimmed := Text.trim s
  let cs := trimmed.toList
  startsWith "#" cs || startsWith "/" cs || startsWith "./" cs || startsWith "../" cs ||
    isHttpUrl trimmed || (!isAbsoluteUrl trimmed && isBarePath cs)

end ContentForms.Link
