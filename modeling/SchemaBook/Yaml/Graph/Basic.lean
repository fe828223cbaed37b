import SchemaBook.Yaml.ScalarType

/-!
The nodes of a YAML document. An alias stands for the node that it names, so a node may be part of
several collections, and of itself: a document is a graph. Nodes have numbers, and collections hold
the numbers of their parts.
-/

namespace SchemaBook.Yaml

/-- What the tag of a node says: the type of a scalar, a kind of collection, or nothing known. -/
inductive Tag where
  | scalar (type : ScalarType)
  | sequence
  | mapping
  /-- A mapping whose keys alone count. -/
  | set
  /-- A sequence of mappings with one entry each. -/
  | pairs
  | unknown
  deriving DecidableEq, Repr

namespace Tag

def coreStart : Text := "tag:yaml.org,2002:"

def core : List (Text × Tag) := [
  ("null", .scalar .null), ("bool", .scalar .bool), ("int", .scalar .int),
  ("float", .scalar .float), ("timestamp", .scalar .timestamp), ("binary", .scalar .octets),
  ("str", .scalar .text), ("merge", .scalar .merge), ("value", .scalar .default),
  ("seq", .sequence), ("map", .mapping), ("set", .set), ("omap", .pairs), ("pairs", .pairs)]

def ofName (name : Text) : Tag :=
  ((coreStart.isPrefixOf? name).bind fun rest => core.lookup rest).getD .unknown

/-- The marks of nodes, which alone are no text. -/
def lonelyMarks : List Text := ["!", "&", "*"]

def ofText (text : Text) : Tag :=
  if lonelyMarks.contains (ScalarType.withoutLineFeed text) then .unknown
  else .scalar (ScalarType.ofText text)

end Tag

/-- What stands at a node: a text, or the numbers of the nodes that it holds. -/
inductive NodeContent where
  | scalar (text : Text)
  | sequence (items : List Nat)
  | mapping (entries : List (Nat × Nat))
  deriving DecidableEq, Repr

/-- A node with its tag, which is written or found from its content. -/
structure Node where
  tag : Tag
  content : NodeContent
  deriving DecidableEq, Repr

namespace Node

/-- The scalar that stands where no node is written. -/
def absent : Node := ⟨.scalar .null, .scalar []⟩

def entries (n : Node) : List (Nat × Nat) :=
  match n.content with
  | .mapping entries => entries
  | _ => []

end Node

/-- The nodes of a document by their numbers. -/
abbrev Nodes := Array Node

namespace Nodes

def hasTag (nodes : Nodes) (tag : Tag) (number : Nat) : Bool :=
  nodes[number]?.any (·.tag == tag)

def entries (nodes : Nodes) (number : Nat) : List (Nat × Nat) :=
  (nodes[number]?.map Node.entries).getD []

def setEntries (nodes : Nodes) (number : Nat) (entries : List (Nat × Nat)) : Nodes :=
  nodes.modify number fun n => { n with content := .mapping entries }

end Nodes

/-- A document: its nodes and the number of the outermost one. -/
structure Graph where
  nodes : Nodes
  root : Nat

end SchemaBook.Yaml
