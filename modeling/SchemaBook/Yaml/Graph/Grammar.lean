import SchemaBook.Yaml.Graph.Basic
import SchemaBook.Yaml.Token

/-!
The grammar that finds the nodes of a document in a sequence of tokens. A collection gets its number
when it is opened, and an anchor names it from then on, so that an alias inside it names it too.
What is wrong with the document is found before a fault of the tokens behind that place.
-/

namespace SchemaBook.Yaml

structure Grammar where
  tokens : List Token
  /-- Why there are no more tokens, if not because the text ends. -/
  fault : Option Fault := none
  nodes : Nodes := #[]
  /-- The nodes that have an anchor. -/
  anchors : List (Text × Nat) := []
  /-- What the handles of tags stand for. -/
  handles : List (Text × Text) := []

abbrev Parse := StateT Grammar (Except Fault)

namespace Parse

def fail {α : Type} : Parse α := throw Fault.malformed

def peek : Parse (Option Token) := do
  match (← get).tokens, (← get).fault with
  | [], some fault => throw fault
  | tokens, _ => return tokens.head?

def advance : Parse Unit := modify fun g => { g with tokens := g.tokens.tail }

def isNext (expected : List Token) : Parse Bool := return (← peek).any expected.contains

def expect (token : Token) : Parse Unit := do
  if ← isNext [token] then advance else fail

def aliased (name : Text) : Parse Nat := do
  match (← get).anchors.lookup name with
  | some number => return number
  | none => fail

/-- What is written in front of a node: anchor and tag, in either order. -/
def properties : Parse (Option Text × Option TagName) := do
  match ← peek with
  | some (.anchor name) =>
    advance
    match ← peek with
    | some (.tag tag) =>
      advance
      return (some name, some tag)
    | _ => return (some name, none)
  | some (.tag tag) =>
    advance
    match ← peek with
    | some (.anchor name) =>
      advance
      return (some name, some tag)
    | _ => return (none, some tag)
  | _ => return (none, none)

/-- A tag with its handle replaced by what that stands for. -/
def resolved : Option TagName → Parse (Option Text)
  | none => return none
  | some ⟨none, suffix⟩ => return some suffix
  | some ⟨some handle, suffix⟩ => do
    match (← get).handles.lookup handle with
    | some expansion => return some (expansion ++ suffix)
    | none => fail

/-- Refuses an anchor that a node has already. -/
def checkAnchor : Option Text → Parse Unit
  | none => return ()
  | some name => do
    if ((← get).anchors.lookup name).isSome then fail

def addNode (anchor : Option Text) (n : Node) : Parse Nat := do
  let number := (← get).nodes.size
  modify fun g => { g with
    nodes := g.nodes.push n
    anchors := (anchor.map (·, number)).toList ++ g.anchors }
  return number

/-- Fills a collection that was opened. -/
def fill (number : Nat) (content : NodeContent) : Parse Nat := do
  modify fun g => { g with nodes := g.nodes.modify number fun n => { n with content } }
  return number

def openTag : Text := "!"

def collectionTag (written : Option Text) (kind : Tag) : Tag :=
  match written with
  | none => kind
  | some name => if name = openTag then kind else .ofName name

/-- The tag of a scalar, written or found from its text; a text in quotes says no type. -/
def scalarTag (written : Option Text) (text : Text) (plain : Bool) : Tag :=
  match written with
  | none => if plain then .ofText text else .scalar .text
  | some name => if name = openTag then .ofText text else .ofName name

/-- The scalar that stands behind anchor and tag, or where nothing is written. -/
def addScalar (anchor tag : Option Text) (text : Text) (plain : Bool) : Parse Nat :=
  addNode anchor ⟨scalarTag tag text plain, .scalar text⟩

def openSequence (anchor tag : Option Text) : Parse Nat :=
  addNode anchor ⟨collectionTag tag .sequence, .sequence []⟩

def openMapping (anchor tag : Option Text) : Parse Nat :=
  addNode anchor ⟨collectionTag tag .mapping, .mapping []⟩

/-- The scalar behind anchor and tag where no content follows; one of them must be written. -/
def emptyScalar (anchor tag : Option Text) : Parse Nat :=
  if anchor.isSome || tag.isSome then addScalar anchor tag [] true else fail

mutual

/-- A node. Block collections are nodes only where they may start; a sequence without indentation of
its own only as the value of a mapping. The number bounds how deep the grammar goes. -/
def node : Nat → Bool → Bool → Parse Nat
  | 0, _, _ => fail
  | depth + 1, isBlock, mayHang => do
    match ← peek with
    | some (.alias name) =>
      advance
      aliased name
    | _ =>
      let (anchor, tagName) ← properties
      let tag ← resolved tagName
      let _ ← peek
      checkAnchor anchor
      content depth isBlock mayHang anchor tag

def content : Nat → Bool → Bool → Option Text → Option Text → Parse Nat
  | 0, _, _, _, _ => fail
  | depth + 1, isBlock, mayHang, anchor, tag => do
    match ← peek with
    | some (.scalar text plain) =>
      advance
      addScalar anchor tag text plain
    | some .flowSequenceStart =>
      advance
      let number ← openSequence anchor tag
      fill number (.sequence (← flowItems depth true))
    | some .flowMappingStart =>
      advance
      let number ← openMapping anchor tag
      fill number (.mapping (← flowEntries depth true))
    | some .blockEntry =>
      if mayHang then
        let number ← openSequence anchor tag
        fill number (.sequence (← hangingItems depth))
      else emptyScalar anchor tag
    | some .blockSequenceStart =>
      if isBlock then
        advance
        let number ← openSequence anchor tag
        fill number (.sequence (← blockItems depth))
      else emptyScalar anchor tag
    | some .blockMappingStart =>
      if isBlock then
        advance
        let number ← openMapping anchor tag
        fill number (.mapping (← blockEntries depth))
      else emptyScalar anchor tag
    | _ => emptyScalar anchor tag

/-- A node, or the absent scalar if one of the given tokens is next. -/
def nodeUnless : Nat → List Token → Bool → Bool → Parse Nat
  | 0, _, _, _ => fail
  | depth + 1, ends, isBlock, mayHang => do
    if ← isNext ends then addNode none .absent else node depth isBlock mayHang

/-- The items of a block sequence. -/
def blockItems : Nat → Parse (List Nat)
  | 0 => fail
  | depth + 1 => do
    if ← isNext [.blockEntry] then
      advance
      let item ← nodeUnless depth [.blockEntry, .blockEnd] true false
      return item :: (← blockItems depth)
    else
      expect .blockEnd
      return []

/-- The items of a block sequence that has no indentation of its own. -/
def hangingItems : Nat → Parse (List Nat)
  | 0 => fail
  | depth + 1 => do
    if ← isNext [.blockEntry] then
      advance
      let item ← nodeUnless depth [.blockEntry, .key, .value, .blockEnd] true false
      return item :: (← hangingItems depth)
    else return []

def blockEntries : Nat → Parse (List (Nat × Nat))
  | 0 => fail
  | depth + 1 => do
    if ← isNext [.key] then
      advance
      let key ← nodeUnless depth [.key, .value, .blockEnd] true true
      let value ← entryValue depth [.key, .value, .blockEnd] true
      return (key, value) :: (← blockEntries depth)
    else
      expect .blockEnd
      return []

/-- The value of an entry, absent where no colon follows. -/
def entryValue : Nat → List Token → Bool → Parse Nat
  | 0, _, _ => fail
  | depth + 1, ends, isBlock => do
    if ← isNext [.value] then
      advance
      nodeUnless depth ends isBlock isBlock
    else addNode none .absent

/-- The items of a sequence in brackets; an item that is a pair is a mapping of one entry. -/
def flowItems : Nat → Bool → Parse (List Nat)
  | 0, _ => fail
  | depth + 1, isFirst => do
    if ← isNext [.flowSequenceEnd] then
      advance
      return []
    if !isFirst then expect .flowEntry
    if ← isNext [.flowSequenceEnd] then
      advance
      return []
    if ← isNext [.key] then
      let pair ← openMapping none none
      advance
      let key ← nodeUnless depth [.value, .flowEntry, .flowSequenceEnd] false false
      let value ← entryValue depth [.flowEntry, .flowSequenceEnd] false
      let item ← fill pair (.mapping [(key, value)])
      return item :: (← flowItems depth false)
    let item ← node depth false false
    return item :: (← flowItems depth false)

/-- The entries of a mapping in brackets; an entry without colon has the absent value. -/
def flowEntries : Nat → Bool → Parse (List (Nat × Nat))
  | 0, _ => fail
  | depth + 1, isFirst => do
    if ← isNext [.flowMappingEnd] then
      advance
      return []
    if !isFirst then expect .flowEntry
    if ← isNext [.flowMappingEnd] then
      advance
      return []
    if ← isNext [.key] then
      advance
      let key ← nodeUnless depth [.value, .flowEntry, .flowMappingEnd] false false
      let value ← entryValue depth [.flowEntry, .flowMappingEnd] false
      return (key, value) :: (← flowEntries depth false)
    let key ← node depth false false
    let value ← addNode none .absent
    return (key, value) :: (← flowEntries depth false)

end

def coreHandles : List (Text × Text) := [("!", "!"), ("!!", Tag.coreStart)]

/-- Reads the directives in front of a document. They name handles, each once; a version must be the
first and only one. The number bounds how many directives there are. -/
def directives : Nat → Bool → List (Text × Text) → Parse Unit
  | 0, _, _ => fail
  | steps + 1, hasVersion, handles => do
    match ← peek with
    | some (.directive (.version major)) =>
      advance
      if hasVersion || major != 1 then fail else directives steps true handles
    | some (.directive (.tagHandle handle expansion)) =>
      advance
      if (handles.lookup handle).isSome then fail
      else directives steps hasVersion ((handle, expansion) :: handles)
    | some (.directive .other) =>
      advance
      directives steps hasVersion handles
    | _ => modify fun g => { g with handles := handles ++ coreHandles }

/-- Passes over the marks of a document's end. The number bounds how many there are. -/
def passEnds : Nat → Parse Unit
  | 0 => fail
  | steps + 1 => do
    if ← isNext [.documentEnd] then
      advance
      passEnds steps

def isMissing : Option Token → Bool
  | none | some (.directive _) | some .documentStart | some .documentEnd => true
  | _ => false

/-- The document that starts here, if nothing but its end follows it. What follows a document could
only be another one, of which the directives would be read before it is refused. -/
def document (size : Nat) : Parse (Option Graph) := do
  let root ← match ← peek with
    | none => return none
    | some (.directive _) | some .documentStart => do
      directives (size + 1) false []
      expect .documentStart
      if isMissing (← peek) then addNode none .absent else node (4 * size + 4) true false
    | some _ => do
      modify fun g => { g with handles := coreHandles }
      node (4 * size + 4) true false
  passEnds (size + 1)
  if (← peek).isSome then
    directives (size + 1) false []
    fail
  let nodes := (← get).nodes
  return some ⟨nodes, root⟩

end Parse

/-- The one document of a sequence of tokens, if there is one. -/
def Graph.ofTokens? (stream : TokenStream) : Except Fault (Option Graph) :=
  (Parse.document stream.tokens.length).run'
    { tokens := stream.tokens, fault := stream.fault }

end SchemaBook.Yaml
