/-!
Rules: what a schema demands of a value, in the form that a check walks over. A rule holds nothing
of a particular check. The label is the name of the field in messages.
-/

namespace ContentForms

/-- What a text has to look like when it is not empty. -/
inductive TextFormat where
  | plain
  /-- A link that may stand behind a button: an anchor, a relative path or a web address. -/
  | link
  /-- The absolute address of an image. -/
  | image
  | absoluteUrl
  deriving DecidableEq

inductive Rule where
  /-- A text; a required one is present and not empty. -/
  | text (label : String) (format : TextFormat) (required : Bool)
  /-- A number, or a text that reads as one. -/
  | number (label : String)
  /-- One of the allowed texts, or a list of them. -/
  | choice (label : String) (allowed : List String) (multiple required : Bool)
  /-- An object with a rule for each of the named members. -/
  | record (label : String) (members : List (String × Rule)) (required : Bool)
  /-- A list whose items all follow one rule, or any rule. -/
  | list (label : String) (element : Option Rule)
  /-- An object that describes an image or video; minimal when the schema names no members. -/
  | media (label : String) (members : List (String × Rule)) (required minimal : Bool)

namespace Rule

def label : Rule → String
  | text label _ _ => label
  | number label => label
  | choice label _ _ _ => label
  | record label _ _ => label
  | list label _ => label
  | media label _ _ _ => label

def isRequired : Rule → Bool
  | text _ _ required => required
  | number _ => true
  | choice _ _ _ required => required
  | record _ _ required => required
  | list _ _ => false
  | media _ _ required _ => required

def members : Rule → List (String × Rule)
  | record _ members _ => members
  | media _ members _ _ => members
  | _ => []

end Rule

end ContentForms
