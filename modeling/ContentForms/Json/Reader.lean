import ContentForms.Json.Token

/-!
Reading JSON. The tokens drive a pushdown machine whose stack holds the arrays and objects that
are open, innermost first; a value that ends is handed to the innermost one, or is the answer when
none is open. So every token is looked at once, and nesting is bounded by the height of the stack.
Members of an object are entered by `Assoc.insert`: they end up in key order, and of two members
with the same key the later one stays.
-/

namespace ContentForms.Json

namespace Reader

inductive Frame where
  /-- The items so far, the latest first. -/
  | array (items : List Json)
  /-- The members so far, and the key whose value is being read. -/
  | object (members : List (String × Json)) (key : String)

/-- What may come next. An object whose next key is being read is not on the stack: its members are
carried here. -/
inductive Expected where
  | value
  | firstItem
  | firstKey
  | key (members : List (String × Json))
  | colon
  | separator (value : Json)

structure State where
  stack : List Frame
  expected : Expected

/-- The greatest number of arrays and objects that may be open at once. -/
def maxDepth : Nat := 127

def start : State := ⟨[], .value⟩

def beginValue (stack : List Frame) : Token → Option State
  | .null => some ⟨stack, .separator .null⟩
  | .bool b => some ⟨stack, .separator (.bool b)⟩
  | .num n => some ⟨stack, .separator (.num n)⟩
  | .str s => some ⟨stack, .separator (.str s)⟩
  | .openArray => if stack.length < maxDepth then some ⟨.array [] :: stack, .firstItem⟩ else none
  | .openObject =>
      if stack.length < maxDepth then some ⟨stack, .firstKey⟩ else none
  | _ => none

def separate (stack : List Frame) (value : Json) : Token → Option State
  | .comma =>
      match stack with
      | .array items :: rest => some ⟨.array (value :: items) :: rest, .value⟩
      | .object members key :: rest =>
          some ⟨rest, .key (Assoc.insert key value members)⟩
      | [] => none
  | .closeArray =>
      match stack with
      | .array items :: rest => some ⟨rest, .separator (.arr (value :: items).reverse)⟩
      | _ => none
  | .closeObject =>
      match stack with
      | .object members key :: rest =>
          some ⟨rest, .separator (.obj (Assoc.insert key value members))⟩
      | _ => none
  | _ => none

def beginKey (stack : List Frame) (members : List (String × Json)) : Token → Option State
  | .str key => some ⟨.object members key :: stack, .colon⟩
  | _ => none

def step (s : State) (t : Token) : Option State :=
  match s.expected with
  | .value => beginValue s.stack t
  | .firstItem =>
      if t = .closeArray then some ⟨s.stack.tail, .separator (.arr [])⟩ else beginValue s.stack t
  | .firstKey =>
      if t = .closeObject then some ⟨s.stack, .separator (.obj [])⟩ else beginKey s.stack [] t
  | .key members => beginKey s.stack members t
  | .colon => if t = .colon then some ⟨s.stack, .value⟩ else none
  | .separator value => separate s.stack value t

def finish : State → Option Json
  | ⟨[], .separator value⟩ => some value
  | _ => none

end Reader

def ofTokens? (tokens : List Token) : Option Json :=
  (tokens.foldlM Reader.step Reader.start).bind Reader.finish

/-- Reads a text that holds one value and nothing else but blanks. -/
def read? (text : String) : Option Json :=
  (Token.scan? text.toList).bind ofTokens?

end ContentForms.Json
