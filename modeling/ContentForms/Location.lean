import ContentForms.Text.Digits

/-!
Locations inside a document: the steps from the root, each a key of an object or an index of a list.
The dotted text joins the steps with dots and is what forms show errors under; it is empty at the
root, and two locations can share it when a key contains a dot.
-/

namespace ContentForms

inductive Step where
  | key (name : String)
  | index (position : Nat)
  deriving DecidableEq

def Step.text : Step → String
  | key name => name
  | index position => String.ofList (Text.decimal position)

/-- Steps from the root, outermost first. -/
abbrev Location := List Step

namespace Location

def root : Location := []

def isRoot (l : Location) : Bool :=
  l.isEmpty

def child (l : Location) (name : String) : Location :=
  l ++ [.key name]

def element (l : Location) (position : Nat) : Location :=
  l ++ [.index position]

def lastStep? (l : Location) : Option Step :=
  List.getLast? l

/-- The location one step up; the root stays where it is. -/
def parent (l : Location) : Location :=
  List.dropLast l

def dotted (l : Location) : String :=
  ".".intercalate (l.map Step.text)

end Location

end ContentForms
