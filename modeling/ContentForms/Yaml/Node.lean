import ContentForms.Yaml.Token.Basic

/-!
The tree of a YAML document. Anchored nodes have numbers instead of names: an alias refers to the
node whose name was the last before it, and a name that is given again keeps no memory of what it
meant.

`Composer` builds the tree from the tokens one at a time. Its stack holds the collections that are
open, innermost first, each as a `Hole` that says where in it the next node goes; when a node is
complete it fills the innermost hole, and `Gap` says what the collection waits for then. A token
that cannot stand for a node where one may be missing leaves an empty node there and is looked at
again in the gap that this makes.
-/

namespace ContentForms.Yaml

structure Properties where
  /-- The number of the node, if it is anchored. -/
  anchor : Option Nat
  tag : Option String
  deriving DecidableEq

def Properties.none : Properties := ⟨Option.none, Option.none⟩

inductive Node where
  | scalar (props : Properties) (plain : Bool) (text : String)
  | sequence (props : Properties) (items : List Node)
  | mapping (props : Properties) (entries : List (Node × Node))
  /-- Stands for the node with a number. -/
  | alias (target : Nat)

namespace Node

def empty (props : Properties) : Node :=
  .scalar props true ""

mutual
/-- The anchored nodes of a tree by their numbers, in the order in which they start. -/
def anchored : Node → List (Nat × Node)
  | .scalar props plain text => (props.anchor.map (·, .scalar props plain text)).toList
  | .sequence props items =>
      (props.anchor.map (·, .sequence props items)).toList ++ anchoredItems items
  | .mapping props entries =>
      (props.anchor.map (·, .mapping props entries)).toList ++ anchoredEntries entries
  | .alias _ => []

def anchoredItems : List Node → List (Nat × Node)
  | [] => []
  | node :: rest => anchored node ++ anchoredItems rest

def anchoredEntries : List (Node × Node) → List (Nat × Node)
  | [] => []
  | (key, value) :: rest => anchored key ++ anchored value ++ anchoredEntries rest
end

mutual
/-- How many marks a tree has in a linear reading: one for a scalar or alias, and one for each end
of a collection. -/
def extent : Node → Nat
  | .scalar _ _ _ | .alias _ => 1
  | .sequence _ items => extentItems items + 2
  | .mapping _ entries => extentEntries entries + 2

def extentItems : List Node → Nat
  | [] => 0
  | node :: rest => extent node + extentItems rest

def extentEntries : List (Node × Node) → Nat
  | [] => 0
  | (key, value) :: rest => extent key + extent value + extentEntries rest
end

end Node

/-- A place for one node in an open collection. Items and entries are given backwards. -/
inductive Hole where
  | document
  | blockItem (props : Properties) (items : List Node)
  /-- An item of a sequence whose dashes are not further in than the key before them. -/
  | flatItem (props : Properties) (items : List Node)
  | blockKey (props : Properties) (entries : List (Node × Node))
  | blockValue (props : Properties) (entries : List (Node × Node)) (key : Node)
  | flowItem (props : Properties) (items : List Node)
  /-- The key of a single entry that is an item of a flow sequence. -/
  | pairKey (props : Properties) (items : List Node)
  | pairValue (props : Properties) (items : List Node) (key : Node)
  | flowKey (props : Properties) (entries : List (Node × Node))
  /-- A key in a flow mapping without an indicator, which has no value. -/
  | loneKey (props : Properties) (entries : List (Node × Node))
  | flowValue (props : Properties) (entries : List (Node × Node)) (key : Node)

/-- What an open collection waits for between two nodes. -/
inductive Gap where
  | documentEnd
  | blockItems (props : Properties) (items : List Node)
  | flatItems (props : Properties) (items : List Node)
  | blockEntries (props : Properties) (entries : List (Node × Node))
  | blockColon (props : Properties) (entries : List (Node × Node)) (key : Node)
  /-- After an item, or, if `fresh`, at the start or after a comma. -/
  | flowItems (fresh : Bool) (props : Properties) (items : List Node)
  | pairColon (props : Properties) (items : List Node) (key : Node)
  | flowEntries (fresh : Bool) (props : Properties) (entries : List (Node × Node))
  | flowColon (props : Properties) (entries : List (Node × Node)) (key : Node)

/-- The gap that filling a hole makes. The document is the only hole that completes the tree. -/
def Hole.fill (node : Node) : Hole → Gap
  | .document => .documentEnd
  | .blockItem props items => .blockItems props (node :: items)
  | .flatItem props items => .flatItems props (node :: items)
  | .blockKey props entries => .blockColon props entries node
  | .blockValue props entries key => .blockEntries props ((key, node) :: entries)
  | .flowItem props items => .flowItems false props (node :: items)
  | .pairKey props items => .pairColon props items node
  | .pairValue props items key =>
      .flowItems false props (.mapping .none [(key, node)] :: items)
  | .flowKey props entries => .flowColon props entries node
  | .loneKey props entries => .flowEntries false props ((node, .empty .none) :: entries)
  | .flowValue props entries key => .flowEntries false props ((key, node) :: entries)

namespace Hole

def admitsBlock : Hole → Bool
  | .document | .blockItem _ _ | .flatItem _ _ | .blockKey _ _ | .blockValue _ _ _ => true
  | _ => false

/-- Whether a sequence may stand in a hole whose dashes are not further in. -/
def admitsFlat : Hole → Bool
  | .blockKey _ _ | .blockValue _ _ _ => true
  | _ => false

end Hole

structure Prologue where
  version : Bool
  /-- The declared tag handles with what they stand for. -/
  handles : List (String × String)

inductive Position where
  /-- Before everything. -/
  | start
  /-- After a directive. -/
  | directives
  /-- Before a node that fills a hole, after its anchor and tag if it has them. `optional` tells
  whether the node may be missing because nothing has been read that announces it. -/
  | node (optional : Bool) (anchored tagged : Bool) (props : Properties) (hole : Hole)
  | gap (gap : Gap)
  /-- After the mark at the end of the document. -/
  | ended
  | finished

structure Composer where
  prologue : Prologue
  /-- The names given so far, with the numbers of the nodes they refer to. -/
  names : List (String × Nat)
  /-- The holes around the current one, innermost first. -/
  outer : List Hole
  position : Position
  /-- The tree, once it is complete. -/
  root : Option Node

namespace Composer

def start : Composer := ⟨⟨false, []⟩, [], [], .start, none⟩

def usualHandles : List (String × String) :=
  [("!", "!"), ("!!", "tag:yaml.org,2002:")]

/-- The full form of a tag: nothing if its handle is unknown. A tag of this document whose escapes
cannot be read counts as no tag. -/
def expandTag? (p : Prologue) (handle : String) (suffix : TagSuffix) : Option (Option String) :=
  if handle.isEmpty then
    some suffix
  else do
    let expansion ← (p.handles ++ usualHandles).lookup handle
    match suffix with
    | some s => pure (some (expansion ++ s))
    | none => pure (if expansion.startsWith "!" then none else some expansion)

def fill (hole : Hole) (node : Node) (c : Composer) : Composer :=
  let root := match hole with
    | .document => some node
    | _ => c.root
  { c with position := .gap (hole.fill node), root := root }

def close? (node : Node) (c : Composer) : Option Composer :=
  match c.outer with
  | [] => none
  | hole :: rest => some ({ c with outer := rest }.fill hole node)

def await (hole : Hole) (c : Composer) : Composer :=
  { c with position := .node true false false .none hole }

def wait (gap : Gap) (c : Composer) : Composer :=
  { c with position := .gap gap }

def openIn (hole : Hole) (gap : Gap) (c : Composer) : Composer :=
  { c with outer := hole :: c.outer, position := .gap gap }

/-- The number of a new anchored node, under a name from here on. -/
def register (name : String) (c : Composer) : Nat × Composer :=
  let number := c.names.length
  let names :=
    if c.names.any (·.1 == name) then
      c.names.map fun (n, old) => if n = name then (n, number) else (n, old)
    else c.names ++ [(name, number)]
  (number, { c with names := names })

/-- Whether a token leaves a hole empty that nothing announces. -/
def leavesEmpty : Hole → Token → Bool
  | .document, t =>
      match t with
      | .version _ _ | .tagHandle _ _ | .documentStart | .documentEnd | .streamEnd => true
      | _ => false
  | .blockItem _ _, t => t == .blockEntry || t == .blockEnd
  | .flatItem _ _, t => t == .blockEntry || t == .key || t == .value || t == .blockEnd
  | .blockKey _ _, t | .blockValue _ _ _, t => t == .key || t == .value || t == .blockEnd
  | .pairValue _ _ _, t => t == .flowEntry || t == .flowSequenceEnd
  | .flowKey _ _, t => t == .value || t == .flowEntry || t == .flowMappingEnd
  | .flowValue _ _ _, t => t == .flowEntry || t == .flowMappingEnd
  | _, _ => false

def inGap? (gap : Gap) (t : Token) (c : Composer) : Option Composer :=
  match gap, t with
  | .documentEnd, .documentEnd => some { c with position := .ended }
  | .documentEnd, .streamEnd => some { c with position := .finished }
  | .blockItems props items, .blockEntry => some (c.await (.blockItem props items))
  | .blockItems props items, .blockEnd => c.close? (.sequence props items.reverse)
  | .flatItems props items, .blockEntry => some (c.await (.flatItem props items))
  | .blockEntries props entries, .key => some (c.await (.blockKey props entries))
  | .blockEntries props entries, .blockEnd => c.close? (.mapping props entries.reverse)
  | .blockColon props entries key, .value => some (c.await (.blockValue props entries key))
  | .flowItems _ props items, .flowSequenceEnd => c.close? (.sequence props items.reverse)
  | .flowItems false props items, .flowEntry => some (c.wait (.flowItems true props items))
  | .pairColon props items key, .value => some (c.await (.pairValue props items key))
  | .flowEntries _ props entries, .flowMappingEnd => c.close? (.mapping props entries.reverse)
  | .flowEntries false props entries, .flowEntry => some (c.wait (.flowEntries true props entries))
  | .flowEntries true props entries, .key => some (c.await (.flowKey props entries))
  | .flowColon props entries key, .value => some (c.await (.flowValue props entries key))
  | _, _ => none

/-- A token that no longer belongs to the collection that waits for it: a key without a value gets
an empty one, and a sequence without an end of its own is complete. -/
def afterGap? (gap : Gap) (t : Token) (c : Composer) : Option Composer :=
  match gap with
  | .blockColon props entries key =>
      inGap? (.blockEntries props ((key, .empty .none) :: entries)) t c
  | .pairColon props items key =>
      inGap? (.flowItems false props (.mapping .none [(key, .empty .none)] :: items)) t c
  | .flowColon props entries key =>
      inGap? (.flowEntries false props ((key, .empty .none) :: entries)) t c
  | _ => none

/-- A token that is not known to end the innermost collection or to go on with it. -/
def step? (gap : Gap) (t : Token) (c : Composer) : Option Composer :=
  match inGap? gap t c with
  | some c => some c
  | none =>
      match gap with
      | .flatItems props items =>
          (c.close? (.sequence props items.reverse)).bind fun c =>
            match c.position with
            | .gap outer => (inGap? outer t c).or (afterGap? outer t c)
            | _ => none
      | _ => afterGap? gap t c

def content? (props : Properties) (hole : Hole) (t : Token) (c : Composer) : Option Composer :=
  match t with
  | .scalar plain text =>
      let props := if props.tag = some "!" then { props with tag := none } else props
      some (c.fill hole (.scalar props plain text))
  | .flowSequenceStart => some (c.openIn hole (.flowItems true props []))
  | .flowMappingStart => some (c.openIn hole (.flowEntries true props []))
  | .blockSequenceStart =>
      if hole.admitsBlock then some (c.openIn hole (.blockItems props [])) else none
  | .blockMappingStart =>
      if hole.admitsBlock then some (c.openIn hole (.blockEntries props [])) else none
  | .blockEntry =>
      if hole.admitsFlat then some ({ c with outer := hole :: c.outer }.await (.flatItem props []))
      else none
  | _ => none

/-- A token before a node or as its content. Without content, a node with properties is empty. -/
def inNode? (anchored tagged : Bool) (props : Properties) (hole : Hole) (t : Token) (c : Composer) :
    Option Composer :=
  match t with
  | .anchor name =>
      if anchored then none
      else
        let (number, c) := c.register name
        let props := { props with anchor := some number }
        some { c with position := .node false true tagged props hole }
  | .tag handle suffix =>
      if tagged then none
      else (expandTag? c.prologue handle suffix).map fun tag =>
        { c with position := .node false anchored true { props with tag := tag } hole }
  | .alias name =>
      if anchored || tagged then none
      else (c.names.lookup name).map fun number => c.fill hole (.alias number)
  | t =>
      match content? props hole t c with
      | some c => some c
      | none =>
          if anchored || tagged then
            let c := c.fill hole (.empty props)
            step? (hole.fill (.empty props)) t c
          else none

def directive? (t : Token) (c : Composer) : Option Composer :=
  match t with
  | .version major minor =>
      if c.prologue.version || major ≠ 1 || !(minor = 1 || minor = 2) then none
      else some { c with position := .directives, prologue := { c.prologue with version := true } }
  | .tagHandle handle expansion =>
      if c.prologue.handles.any (·.1 == handle) then none
      else
        let handles := c.prologue.handles ++ [(handle, expansion)]
        some { c with position := .directives, prologue := { c.prologue with handles := handles } }
  | .documentStart => some (c.await .document)
  | _ => none

def next? (c : Composer) (t : Token) : Option Composer :=
  match c.position with
  | .start =>
      match directive? t c with
      | some c => some c
      | none =>
          match t with
          | .version _ _ | .tagHandle _ _ => none
          | .streamEnd => some { c with position := .finished }
          | t => inNode? false false .none .document t c
  | .directives => directive? t c
  | .node optional anchored tagged props hole =>
      match hole with
      | .pairKey ofSequence items =>
          if optional && (t == .value || t == .flowEntry || t == .flowSequenceEnd) then
            some (c.wait (.pairColon ofSequence items (.empty .none)))
          else inNode? anchored tagged props hole t c
      | hole =>
          if optional && leavesEmpty hole t then
            let c := c.fill hole (.empty .none)
            step? (hole.fill (.empty .none)) t c
          else inNode? anchored tagged props hole t c
  | .gap gap =>
      match gap, t with
      | .flowItems true props items, .key => some (c.await (.pairKey props items))
      | .flowItems true props items, t =>
          (inGap? gap t c).or (inNode? false false .none (.flowItem props items) t c)
      | .flowEntries true props entries, t =>
          (inGap? gap t c).or (inNode? false false .none (.loneKey props entries) t c)
      | gap, t => step? gap t c
  | .ended =>
      match t with
      | .documentEnd => some c
      | .streamEnd => some { c with position := .finished }
      | _ => none
  | .finished => none

end Composer

/-- The document of a text: nothing if the text is refused, and no node if it has no document. -/
def Node.ofTokens? (tokens : List Token) : Option (Option Node) :=
  match tokens.foldlM Composer.next? Composer.start with
  | some ⟨_, _, _, .finished, root⟩ => some root
  | _ => none

end ContentForms.Yaml
