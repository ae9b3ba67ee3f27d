import ElementCode.Yaml.Node

/-!
# Merging mappings

The value under the merge key `<<` is a mapping or a sequence of mappings whose entries come before
those of the mapping around it, those of a later mapping of a sequence first.  Merging takes the
merge keys away one by one and changes the nodes for good, so a mapping can be merged into itself,
and what is merged twice is worked out once.  A key `=` becomes plain text on the way.
-/

namespace ElementCode.Yaml

namespace Graph

/-- The node with a number. -/
def node (g : Graph) (n : Nat) : Node := g.nodes[n]?.getD .absent

/-- The entries of a mapping. -/
def entries (g : Graph) (n : Nat) : List (Nat × Nat) :=
  match g.node n with
  | .map _ entries => entries
  | _ => []

/-- The graph with other entries for a mapping. -/
def setEntries (g : Graph) (n : Nat) (entries : List (Nat × Nat)) : Graph :=
  match g.node n with
  | .map tag _ => { g with nodes := g.nodes.setIfInBounds n (.map tag entries) }
  | _ => g

/-- The graph with another tag for a node. -/
def setTag (g : Graph) (n : Nat) (tag : Tag) : Graph :=
  { g with nodes := g.nodes.setIfInBounds n (match g.node n with
    | .scalar _ text => .scalar tag text
    | .seq _ items => .seq tag items
    | .map _ entries => .map tag entries) }

/-- Whether a node is a merge key. -/
def isMergeKey (g : Graph) (n : Nat) : Bool := (g.node n).tag == .merge

/-- A bound on the steps of merging: every merge key is taken once, and adds at most as many copies
of a mapping as there are items in the graph. -/
def mergeSteps (g : Graph) : Nat :=
  let count (f : Node → Nat) : Nat := g.nodes.foldl (fun n node => n + f node) 0
  let items := count fun
    | .seq _ items => items.length
    | _ => 0
  let entries := count fun
    | .map _ entries => entries.length
    | _ => 0
  let keys := count fun
    | .map _ entries => (entries.filter fun (k, _) => g.isMergeKey k).length
    | _ => 0
  3 * (keys + 1) * (entries + 2) * Nat.pow (items + 2) (keys + 1)

end Graph

/-- Changes the nodes of a document. -/
abbrev Merge := StateT Graph (Except Error)

namespace Merge

mutual

/-- Merges what stands under merge keys into the mapping `n`, from the entry with an index on;
`found` holds what comes before its own entries. -/
def mergeFrom (n index : Nat) (found : List (Nat × Nat)) : Nat → Merge Unit
  | 0 => throw .invalid
  | fuel + 1 => do
    let g ← get
    let entries := g.entries n
    match entries[index]? with
    | none => if found.isEmpty then return () else set (g.setEntries n (found ++ entries))
    | some (k, v) =>
      match (g.node k).tag with
      | .merge =>
        set (g.setEntries n (entries.eraseIdx index))
        let more ← (match g.node v with
          | .map _ _ => mapping v fuel
          | .seq _ items => sequence items fuel
          | .scalar _ _ => throw .invalid : Merge (List (Nat × Nat)))
        mergeFrom n index (found ++ more) fuel
      | .value =>
        set (g.setTag k .str)
        mergeFrom n (index + 1) found fuel
      | _ => mergeFrom n (index + 1) found fuel

/-- The entries of a mapping after merging. -/
def mapping (n : Nat) : Nat → Merge (List (Nat × Nat))
  | 0 => throw .invalid
  | fuel + 1 => do
    mergeFrom n 0 [] fuel
    return (← get).entries n

/-- The entries of the mappings of a sequence, those of the last mapping first. -/
def sequence (items : List Nat) : Nat → Merge (List (Nat × Nat))
  | 0 => throw .invalid
  | fuel + 1 => do
    match items with
    | [] => return []
    | n :: rest =>
      match (← get).node n with
      | .map _ _ =>
        let own ← mapping n fuel
        let later ← sequence rest fuel
        return later ++ own
      | _ => throw .invalid

end

end Merge

/-- The graph in which a mapping has no merge keys left. -/
def Graph.merged (g : Graph) (n : Nat) : Except Error Graph :=
  let plain (tag : Tag) : Bool := tag != .merge && tag != .value
  if (g.entries n).all fun (k, _) => plain (g.node k).tag then .ok g
  else (Merge.mergeFrom n 0 [] g.mergeSteps g).map (·.2)

end ElementCode.Yaml
