import SchemaBook.Value.Display
import SchemaBook.Yaml.Graph.Grammar
import SchemaBook.Yaml.Graph.Merge
import SchemaBook.Yaml.Layout
import SchemaBook.Yaml.ScalarValue

/-!
The data of a YAML text. A document is read level by level: a collection is noted when it is met and
read when its turn comes, in the order in which collections were met, and the first fault ends the
reading. What a node has become is kept, so that all who hold it hold the same. The values are then
put together from the outermost node, with a label for every collection that holds itself.
-/

namespace SchemaBook.Yaml

/-- What a node has become. -/
inductive Cell where
  /-- A scalar. Two scalars of one identity are one key of a mapping. -/
  | scalar (value : Value) (identity : Option Nat)
  | list (items : List Nat)
  | map (entries : List (Nat × Nat))
  | set (keys : List Nat)
  | pairs (entries : List (Nat × Nat))

/-- The state of the reading: the nodes as they are now, what those met have become, and the
collections that were met and not read, in two parts. -/
structure Construction where
  nodes : Nodes
  /-- The number of entries that can be merged. -/
  mergeLimit : Nat
  cells : Array (Option Cell)
  /-- The collections whose turn comes next. -/
  front : List Nat := []
  /-- The collections behind them, the last one first. -/
  back : List Nat := []

abbrev Construct := StateT Construction (Except Fault)

namespace Construct

/-- The text of a node whose tag says a scalar. A mapping stands for its default value. The number
bounds how deep default values stand. -/
def scalarText (nodes : Nodes) : Nat → Nat → Except Fault Text
  | 0, _ => .error (.scalar .endless)
  | steps + 1, number =>
    match (nodes[number]?).map Node.content with
    | some (.scalar text) => .ok text
    | some (.mapping entries) =>
      match entries.find? fun entry => nodes.hasTag (.scalar .default) entry.1 with
      | some (_, value) => scalarText nodes steps value
      | none => .error .malformed
    | _ => .error .malformed

def isMapping (n : Node) : Bool :=
  match n.content with
  | .mapping _ => true
  | _ => false

def scalarCell (nodes : Nodes) (number : Nat) (n : Node) (type : ScalarType) :
    Except Fault Cell := do
  if type = .merge ∨ type = .default then .error .malformed
  let text ← scalarText nodes (nodes.size + 1) number
  if type = .timestamp ∧ isMapping n then .error (.scalar .timestampOfMapping)
  let value ← scalarValue type text
  let isShared : Bool := type = .float ∧ ScalarValue.isUndefinedWord text
  return .scalar value (if isShared then none else some number)

def setCell (number : Nat) (cell : Cell) : Construct Unit :=
  modify fun c => { c with cells := c.cells.setIfInBounds number (some cell) }

def addPending (number : Nat) : Construct Unit :=
  modify fun c => { c with back := number :: c.back }

/-- Meets a node: a scalar is read at once, a collection is noted. -/
def meet (number : Nat) : Construct Unit := do
  let c ← get
  match c.nodes[number]?, (c.cells[number]?).join with
  | none, _ => throw Fault.malformed
  | some _, some _ => return ()
  | some n, none =>
    match n.tag with
    | .scalar type => setCell number (← scalarCell c.nodes number n type)
    | .sequence =>
      setCell number (.list [])
      addPending number
    | .mapping =>
      setCell number (.map [])
      addPending number
    | .set =>
      setCell number (.set [])
      addPending number
    | .pairs =>
      setCell number (.pairs [])
      addPending number
    | .unknown => throw Fault.malformed

def cell? (number : Nat) : Construct (Option Cell) := return ((← get).cells[number]?).join

def sameKey (a b : Option Cell) : Bool :=
  match a, b with
  | some (.scalar v i), some (.scalar w j) => i == j || v.sameKey w
  | _, _ => false

/-- Adds an entry of a mapping. What is no scalar cannot be a key. A key that is there keeps its
place and gets the new value. -/
def addEntry (entries : List (Nat × Nat)) (entry : Nat × Nat) : Construct (List (Nat × Nat)) := do
  meet entry.1
  let key ← cell? entry.1
  match key with
  | some (.scalar ..) =>
    meet entry.2
    let cells := (← get).cells
    let isKey (other : Nat × Nat) : Bool := sameKey (cells[other.1]?).join key
    if entries.any isKey then
      return entries.map fun other => if isKey other then (other.1, entry.2) else other
    else return entries ++ [entry]
  | _ => throw Fault.malformed

/-- The entries of a mapping, once others were merged into it. -/
def mappingEntries (number : Nat) : Construct (List (Nat × Nat)) := do
  let c ← get
  let nodes ← c.nodes.merge c.mergeLimit number
  set { c with nodes }
  (nodes.entries number).foldlM addEntry []

/-- The one entry of a mapping in a list of pairs. Its key may be anything. -/
def pairOf (nodes : Nodes) (number : Nat) : Construct (Nat × Nat) :=
  match (nodes[number]?).map Node.content with
  | some (.mapping [entry]) => do
    meet entry.1
    meet entry.2
    return entry
  | _ => throw Fault.malformed

/-- Reads a collection whose turn has come. -/
def complete (number : Nat) : Construct Unit := do
  let c ← get
  match c.nodes[number]? with
  | some ⟨.sequence, .sequence items⟩ =>
    items.forM meet
    setCell number (.list items)
  | some ⟨.pairs, .sequence items⟩ => setCell number (.pairs (← items.mapM (pairOf c.nodes)))
  | some ⟨.mapping, .mapping _⟩ => setCell number (.map (← mappingEntries number))
  | some ⟨.set, .mapping _⟩ => setCell number (.set ((← mappingEntries number).map (·.1)))
  | _ => throw Fault.malformed

def next? : Construct (Option Nat) := do
  let c ← get
  match c.front with
  | number :: front =>
    set { c with front }
    return some number
  | [] =>
    match c.back.reverse with
    | number :: front =>
      set { c with front, back := [] }
      return some number
    | [] => return none

/-- Reads collections until none is left. The number bounds how many there are. -/
def completeAll : Nat → Construct Unit
  | 0 => return ()
  | steps + 1 => do
    match ← next? with
    | some number =>
      complete number
      completeAll steps
    | none => return ()

end Construct

def Graph.cells (g : Graph) : Except Fault (Array (Option Cell)) := do
  let start : Construction :=
    { nodes := g.nodes
      mergeLimit := g.nodes.mergeCount
      cells := Array.replicate g.nodes.size none }
  let (_, c) ← (do Construct.meet g.root; Construct.completeAll (g.nodes.size + 1)).run start
  return c.cells

/-- A set of keys. Which of them comes first is not said, so they are shown as they were read. -/
def setObject (keys : List Value) : ForeignObject :=
  let shown? : Option Text :=
    if keys.isEmpty then some "set()"
    else (Value.shownItems? [] keys).map (Value.bracketed "\x7b" · "\x7d")
  { kind := "set"
    fullKind := "set"
    identity := []
    shown?
    plain? := shown?
    isGiven := !keys.isEmpty
    hasItems := true }

/-- A value, and the labels in it that stand for collections around it. -/
structure Assembled where
  value : Value
  labels : List Nat := []

/-- Putting values together. Values without labels are kept for all who hold them. -/
abbrev Assemble := StateM (Array (Option Value))

namespace Assemble

/-- A collection put together from its parts. If it is part of itself, it gets its label. -/
def closed (number : Nat) (value : Value) (labels : List Nat) : Assemble Assembled := do
  if labels.isEmpty then
    modify fun known => known.setIfInBounds number (some value)
    return { value }
  else return ⟨.knot number value, labels.filter (· != number)⟩

/-- The value of a node inside the collections of the given numbers. The number of steps bounds how
deep a collection stands inside others. -/
def valueOf (cells : Array (Option Cell)) : Nat → List Nat → Nat → Assemble Assembled
  | 0, _, number => return ⟨.loop number, [number]⟩
  | steps + 1, around, number => do
    if around.contains number then return ⟨.loop number, [number]⟩
    let part := valueOf cells steps (number :: around)
    let pair (entry : Nat × Nat) : Assemble (Assembled × Assembled) :=
      return (← part entry.1, ← part entry.2)
    match ((← get)[number]?).join with
    | some value => return { value }
    | none =>
      match (cells[number]?).join with
      | some (.scalar value _) => return { value }
      | some (.list items) =>
        let parts ← items.mapM part
        closed number (.list (parts.map (·.value))) (parts.flatMap (·.labels))
      | some (.map entries) =>
        let parts ← entries.mapM pair
        closed number (.map (parts.map fun (key, value) => (key.value, value.value)))
          (parts.flatMap fun (_, value) => value.labels)
      | some (.pairs entries) =>
        let parts ← entries.mapM pair
        closed number (.list (parts.map fun (key, value) => .tuple [key.value, value.value]))
          (parts.flatMap fun (key, value) => key.labels ++ value.labels)
      | some (.set keys) =>
        let parts ← keys.mapM part
        closed number (.foreign (setObject (parts.map (·.value)))) []
      | none => return { value := .null }

end Assemble

def Graph.value (g : Graph) : Except Fault Value := do
  let cells ← g.cells
  let start : Array (Option Value) := Array.replicate cells.size none
  return ((Assemble.valueOf cells (cells.size + 1) [] g.root).run start).1.value

/-- The data of a YAML text. A text without a document holds null. -/
def load (text : Text) : Except Fault Value := do
  match ← Graph.ofTokens? (TokenStream.ofText text) with
  | none => return .null
  | some g => g.value

end SchemaBook.Yaml
