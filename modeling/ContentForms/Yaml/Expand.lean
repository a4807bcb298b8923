import ContentForms.Yaml.Node
import ContentForms.Yaml.Value

/-!
From the tree of a document to its value. Aliases are replaced by what they stand for, scalars by
their values; a mapping may not have two equal keys. Collections nest at most 128 levels deep,
aliases included, so a node that contains an alias of itself is refused; and following aliases is
given up after a number of them that grows with the size of the tree, so that a small text cannot
stand for an enormous value.
-/

namespace ContentForms.Yaml

def maxDepth : Nat := 128

/-- How many aliases may be followed for each mark of the tree. -/
def aliasesPerMark : Nat := 100

/-- A name without the exclamation mark in front of it, unless that is all. -/
def withoutMark : List Char → List Char
  | '!' :: c :: rest => c :: rest
  | cs => cs

/-- The name of a tag of the document's own, which starts with an exclamation mark. -/
def ownTag? (tag : Option String) : Option String :=
  match tag.map String.toList with
  | some ('!' :: rest) => some (String.ofList (withoutMark (withoutMark ('!' :: rest))))
  | _ => none

def withTag (tag : Option String) (value : Value) : Value :=
  match ownTag? tag with
  | some name => .tagged name value
  | none => value

/-- The value of a scalar, whose text decides unless it is quoted or a tag says otherwise. -/
def scalarValue? (tag : Option String) (plain : Bool) (text : String) : Option Value :=
  match tag, ownTag? tag with
  | some tag, none => Scalar.global? tag text
  | tag, _ => (if plain then Scalar.plain? text else some (.str text)).map (withTag tag)

/-- The node with a number: the last one that was given it. -/
def target? (anchored : List (Nat × Node)) (number : Nat) : Option Node :=
  anchored.reverse.lookup number

/-- The items that aliases were followed for, counted down. -/
abbrev Budget := StateT Nat Option

def resolve (anchored : List (Nat × Node)) : Node → Budget Node
  | .alias number => do
      let left ← get
      if left = 0 then failure
      else
        set (left - 1)
        StateT.lift (target? anchored number)
  | node => pure node

/-- Adds an entry to a mapping, unless the key is there already. The entries are given backwards. -/
def withEntry (entries : List (Value × Value)) (key value : Value) :
    Option (List (Value × Value)) :=
  if entries.any fun entry => entry.1.same key then none else some ((key, value) :: entries)

/-- The value of a node that stands at most so many collections deep. -/
def expand (anchored : List (Nat × Node)) : (depth : Nat) → Node → Budget Value
  | depth, node => do
      match ← resolve anchored node with
      | .scalar props plain text => StateT.lift (scalarValue? props.tag plain text)
      | .sequence props items =>
          match depth with
          | 0 => failure
          | depth + 1 => do
              let values ← items.mapM (expand anchored depth)
              pure (withTag props.tag (.sequence values))
      | .mapping props entries =>
          match depth with
          | 0 => failure
          | depth + 1 => do
              let values ← entries.foldlM (fun acc (key, value) => do
                let key ← expand anchored depth key
                let value ← expand anchored depth value
                StateT.lift (withEntry acc key value)) []
              pure (withTag props.tag (.mapping values.reverse))
      | .alias _ => failure

def Node.value? (root : Node) : Option Value :=
  ((expand root.anchored maxDepth root).run (aliasesPerMark * root.extent)).map Prod.fst

end ContentForms.Yaml
