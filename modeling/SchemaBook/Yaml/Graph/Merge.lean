import SchemaBook.Yaml.Fault
import SchemaBook.Yaml.Graph.Basic

/-!
Merging. An entry whose key has the merge tag is replaced by the entries of the mapping that is its
value, or of the mappings that its value lists; those of later mappings come first, and all of them
come before the mapping's own entries. The mappings that are merged are merged themselves first, and
stay so. A key that marks the default value becomes a text in a mapping that was merged.
-/

namespace SchemaBook.Yaml.Nodes

/-- Whether the key of an entry has the merge tag. -/
def isMerge (nodes : Nodes) (entry : Nat × Nat) : Bool := nodes.hasTag (.scalar .merge) entry.1

/-- The number of entries that are still to be merged. -/
def mergeCount (nodes : Nodes) : Nat :=
  nodes.foldl (fun count n => count + n.entries.countP nodes.isMerge) 0

/-- The nodes with the key of one entry as a text where it marked the default value. -/
def withTextKey (nodes : Nodes) (entry : Nat × Nat) : Nodes :=
  if nodes.hasTag (.scalar .default) entry.1 then
    nodes.modify entry.1 fun n => { n with tag := .scalar .text }
  else nodes

/-- The nodes with the given entries in front of those of a mapping. -/
def prepend (nodes : Nodes) (number : Nat) (merged : List (Nat × Nat)) : Nodes :=
  let own := nodes.entries number
  (own.foldl withTextKey nodes).setEntries number (merged ++ own)

/-- The entries of the listed mappings, each merged first, with those of later mappings in front. -/
def listed (merge : Nodes → Nat → Except Fault Nodes) (nodes : Nodes) :
    List Nat → List (Nat × Nat) → Except Fault (Nodes × List (Nat × Nat))
  | [], found => .ok (nodes, found)
  | item :: rest, found =>
    match (nodes[item]?).map Node.content with
    | some (.mapping _) => do
      let nodes ← merge nodes item
      listed merge nodes rest (nodes.entries item ++ found)
    | _ => .error .malformed

def mergedEntries (merge : Nodes → Nat → Except Fault Nodes) (nodes : Nodes) (value : Nat) :
    Except Fault (Nodes × List (Nat × Nat)) :=
  match (nodes[value]?).map Node.content with
  | some (.mapping _) => do
    let nodes ← merge nodes value
    return (nodes, nodes.entries value)
  | some (.sequence items) => listed merge nodes items []
  | _ => .error .malformed

/-- Merges a mapping, some entries having been found already. Every step takes out one entry that is
to be merged, so there are no more steps than such entries. -/
def mergeFrom : Nat → Nodes → Nat → List (Nat × Nat) → Except Fault Nodes
  | steps, nodes, number, merged =>
    let own := (nodes.entries number).takeWhile (!nodes.isMerge ·)
    match (nodes.entries number).drop own.length, steps with
    | [], _ => .ok (nodes.prepend number merged)
    | _ :: _, 0 => .error .malformed
    | (_, value) :: rest, steps + 1 => do
      let (nodes, found) ← mergedEntries (fun nodes item => mergeFrom steps nodes item [])
        (nodes.setEntries number (own ++ rest)) value
      mergeFrom steps nodes number (merged ++ found)

def merge (nodes : Nodes) (steps number : Nat) : Except Fault Nodes :=
  mergeFrom steps nodes number []

end SchemaBook.Yaml.Nodes
