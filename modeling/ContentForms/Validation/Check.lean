import ContentForms.Link
import ContentForms.Json.Decode
import ContentForms.Rule.Compile
import ContentForms.Validation.Issue
import ContentForms.Binary64.Literal

/-!
Checking a document against the rules of a schema. A check walks over rule and value together and
gives the normalized value and the issues; all members and items are visited, so one check finds
everything that is wrong. Issues are relative to the value at hand and move outwards as they are
collected.

An absent key and `null` count as missing. What is missing is a fault where it is required;
elsewhere the key stays absent or null. A number that is written as a text becomes a number and a
missing list becomes an empty one; nothing else changes, and keys without a rule are left as they
are.
-/

namespace ContentForms

/-- The outcome of a check: the value to store, or none if the key is to be absent, and the
issues. -/
structure Checked where
  value : Option Json
  issues : List Issue

namespace Checked

def good (value : Option Json) : Checked :=
  ⟨value, []⟩

def fault (label : String) (f : Fault) (value : Option Json) : Checked :=
  ⟨value, [.here label f]⟩

end Checked

namespace Validation

def isMissing : Option Json → Bool
  | none | some .null => true
  | _ => false

/-- A missing value: a fault if it is required, else left as it is. -/
def checkMissing (label : String) (required : Bool) (input : Option Json) : Checked :=
  if required then .fault label .missing none else .good input

def formatFault? : TextFormat → String → Option Fault
  | .plain, _ => none
  | .link, s => if Link.isLink s then none else some .notLink
  | .image, s => if Link.isAbsoluteUrl s then none else some .notImage
  | .absoluteUrl, s => if Link.isAbsoluteUrl s then none else some .notUrl

def checkText (label : String) (format : TextFormat) (required : Bool) (input : Option Json) :
    Checked :=
  if isMissing input then checkMissing label required input
  else match input with
    | some (.str s) =>
        if s.isEmpty then
          if required then .fault label .missing (some (.str s)) else .good (some (.str s))
        else match formatFault? format s with
          | none => .good (some (.str s))
          | some f => .fault label f (some (.str s))
    | _ => .fault label .notText none

/-- The greatest magnitude below which every integer is a binary64 value: `2 ^ 53`. -/
def greatestExact : Int := Int.pow 2 53

/-- The number that a text stands for: an integer where the value is integral and not too large for
that to be certain, else a binary64 value. -/
def coerceNumber? (s : String) : Option Number := do
  let value ← Binary64.readLiteral? (Text.trimChars s.toList)
  match value.toInt? with
  | some i => if i.natAbs ≤ greatestExact.natAbs then pure (.int i) else pure (.float value)
  | none => pure (.float value)

def checkNumber (label : String) (input : Option Json) : Checked :=
  if isMissing input then checkMissing label true input
  else match input with
    | some (.num n) => .good (some (.num n))
    | some (.str s) =>
        match coerceNumber? s with
        | some n => .good (some (.num n))
        | none => .fault label .notNumber none
    | _ => .fault label .notNumber none

def checkOne (label : String) (allowed : List String) (required : Bool) (input : Option Json) :
    Checked :=
  if isMissing input then checkMissing label required input
  else match input with
    | some (.str s) =>
        if allowed.contains s || (s.isEmpty && !required) then .good (some (.str s))
        else .fault label (.notOneOf allowed) none
    | _ => .fault label (.notOneOf allowed) none

def isAllowed (allowed : List String) : Json → Bool
  | .str s => allowed.contains s
  | _ => false

/-- An item of a selection in a message: a text as it is, any other value as JSON. -/
def itemText : Json → String
  | .str s => s
  | item => item.compact

def checkMany (label : String) (allowed : List String) (required : Bool) (input : Option Json) :
    Checked :=
  if isMissing input then
    if required then .fault label .noneChosen none else .good input
  else match input with
    | some (.arr items) =>
        if items.isEmpty && required then .fault label .noneChosen (some (.arr []))
        else
          let bad := items.filter fun item => !isAllowed allowed item
          if bad.isEmpty then .good (some (.arr items))
          else .fault label (.notAllowed (bad.map itemText)) (some (.arr items))
    | _ => .fault label .wrongShape none

def store (members : List (String × Json)) (outcome : String × Checked) : List (String × Json) :=
  match outcome.2.value with
  | some value => Assoc.insert outcome.1 value members
  | none => Assoc.erase outcome.1 members

def closeRecord (members : List (String × Json)) (outcomes : List (String × Checked)) :
    Checked where
  value := some (.obj (outcomes.foldl store members))
  issues := outcomes.flatMap fun (id, outcome) => outcome.issues.map (Issue.under (.key id))

/-- The outcome for a list from those for its items; an item without a value stays as it is. -/
def closeList (outcomes : List (Json × Checked)) : Checked where
  value := some (.arr (outcomes.map fun (item, outcome) => outcome.value.getD item))
  issues := outcomes.zipIdx.flatMap fun ((_, outcome), i) =>
    outcome.issues.map (Issue.under (.index i))

mutual
def check : Rule → Option Json → Checked
  | .text label format required, input => checkText label format required input
  | .number label, input => checkNumber label input
  | .choice label allowed multiple required, input =>
      if multiple then checkMany label allowed required input
      else checkOne label allowed required input
  | .record label members required, input | .media label members required _, input =>
      if isMissing input then checkMissing label required input
      else match input with
        | some (.obj values) => closeRecord values (checkMembers members values)
        | _ => .fault label .wrongShape none
  | .list label element, input =>
      if isMissing input then .good (some (.arr []))
      else match input, element with
        | some (.arr items), none => .good (some (.arr items))
        | some (.arr items), some rule =>
            closeList (items.map fun item => (item, check rule (some item)))
        | _, _ => .fault label .wrongShape none

/-- The outcomes for the members of an object, in the order of the rules. -/
def checkMembers : List (String × Rule) → List (String × Json) → List (String × Checked)
  | [], _ => []
  | (id, rule) :: rest, values =>
      (id, check rule (Assoc.get? id values)) :: checkMembers rest values
end

end Validation

/-- Whether a document is stored, and as what. There is no partial acceptance. -/
inductive Validation where
  | accepted (value : Json)
  | rejected (issues : List Issue)
  deriving DecidableEq

namespace Validation

def isAccepted : Validation → Bool
  | accepted _ => true
  | rejected _ => false

def issues : Validation → List Issue
  | accepted _ => []
  | rejected issues => issues

def ofChecked (outcome : Checked) : Validation :=
  if outcome.issues.isEmpty then accepted (outcome.value.getD .null) else rejected outcome.issues

end Validation

/-- Checks a whole document, which has to be an object. -/
def CompiledSchema.validate (schema : CompiledSchema) (document : Json) : Validation :=
  if document.isObject then .ofChecked (Validation.check schema.root (some document))
  else .rejected [.here CompiledSchema.rootLabel .notADocument]

end ContentForms
