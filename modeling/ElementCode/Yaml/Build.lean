import Std.Data.HashMap
import ElementCode.Value.SlotOrder
import ElementCode.Yaml.Content
import ElementCode.Yaml.Merge

/-!
# The values of YAML nodes

What a graph of nodes stands for.  A collection is made when it is first met and filled later, in
the order in which collections are met, so of several faults in a document the one nearest to the
root counts, and of those at one depth the first.  A node that is met again is the same item.
Afterwards the items are written out as a value; a collection inside itself is cut off there.
-/

namespace ElementCode.Yaml

/-- What a node stands for: a scalar, which can be a key, or the collection with its number. -/
inductive Item where
  | scalar (k : Key)
  | collection (number : Nat)

/-- What is in a collection. -/
inductive Contents where
  | list (items : List Item)
  | pairs (entries : List (Item × Item))
  | set (keys : List Key)
  | dict (entries : List (Key × Item))

/-- The state of the building of items. -/
structure Builder where
  /-- The nodes. -/
  graph : Graph
  /-- The items of nodes, by number. -/
  items : Std.HashMap Nat Item := ∅
  /-- What is in the collections that have been filled. -/
  contents : Std.HashMap Nat Contents := ∅
  /-- The collections in the order in which they were met. -/
  queue : Array Nat := #[]

/-- Builds items. -/
abbrev Build := StateT Builder (Except Error)

namespace Builder

/-- The node with a number. -/
def node (n : Nat) : Build Node := return (← get).graph.node n

/-- The text of a node tagged as a scalar: of a mapping, that of its first entry under `=`. -/
def scalarText? (g : Graph) : Nat → Nat → Option Text.Points
  | 0, _ => none
  | fuel + 1, n =>
    match g.node n with
    | .scalar _ text => some text
    | .seq _ _ => none
    | .map _ entries =>
      match entries.find? fun (k, _) => (g.node k).tag == .value with
      | some (_, v) => scalarText? g fuel v
      | none => none

/-- The key that a node stands for that is not tagged as a collection.  The words for no number are
all the same key. -/
def scalarKey (g : Graph) (n : Nat) : Except Error Key := do
  match scalarText? g (g.nodes.size + 1) n, g.node n with
  | none, _ => .error .invalid
  | some _, .map .timestamp _ => .error .mappingForTimestamp
  | some text, node =>
    let value ← scalarValue node.tag text
    let shared := node.tag == .float && isNanWord text.toChars
    return ⟨value, if shared then g.nodes.size else n⟩

/-- The item of a node.  A collection is put in the queue when it is first met. -/
def item (n : Nat) : Build Item := do
  let b ← get
  match b.items[n]? with
  | some i => return i
  | none =>
    if (b.graph.node n).tag.isCollection then
      let i := Item.collection n
      set { b with items := b.items.insert n i, queue := b.queue.push n }
      return i
    else
      let i := Item.scalar (← scalarKey b.graph n)
      set { b with items := b.items.insert n i }
      return i

/-- The items of the only entry of a mapping. -/
def pair (n : Nat) : Build (Item × Item) := do
  match ← node n with
  | .map _ [(k, v)] =>
    let key ← item k
    return (key, ← item v)
  | _ => throw .invalid

/-- Adds an entry to those of a mapping; a collection is no key. -/
def entry (done : List (Key × Item)) (kv : Nat × Nat) : Build (List (Key × Item)) := do
  match ← item kv.1 with
  | .scalar k => return putEntry k (← item kv.2) done
  | .collection _ => throw .invalid

/-- The entries of a mapping, after merging. -/
def entries (n : Nat) : Build (List (Key × Item)) := do
  let graph ← (← get).graph.merged n
  modify fun b => { b with graph }
  (graph.entries n).foldlM entry []

/-- What is in a collection.  Its node has to be written in the way that its tag asks for. -/
def contentsOf (n : Nat) : Build Contents := do
  match ← node n with
  | .seq .seq items => return .list (← items.mapM item)
  | .seq .omap items | .seq .pairs items => return .pairs (← items.mapM pair)
  | .map .map _ => return .dict (← entries n)
  | .map .set _ => return .set ((← entries n).map (·.1))
  | _ => throw .invalid

/-- Fills the collections of the queue from an index on, at most `fuel` of them. -/
def fillFrom : Nat → Nat → Build Unit
  | 0, _ => return ()
  | fuel + 1, index => do
    match (← get).queue[index]? with
    | none => return ()
    | some n =>
      let contents ← contentsOf n
      modify fun b => { b with contents := b.contents.insert n contents }
      fillFrom fuel (index + 1)

/-- The item of the root, with all collections filled. -/
def root : Build Item := do
  let graph := (← get).graph
  let i ← item graph.root
  fillFrom (graph.nodes.size + 1) 0
  return i

/-! ## Values -/

/-- The values of collections that do not hold a collection around them. -/
abbrev Known := Std.HashMap Nat Value

/-- The value of an item inside some collections, and whether it is the same everywhere, since no
collection has been cut off in it. -/
def value (b : Builder) : Nat → List Nat → Item → StateM Known (Value × Bool)
  | _, _, .scalar k => return (k.value, true)
  | 0, _, .collection _ => return (.null, false)
  | fuel + 1, inside, .collection n => do
    match (← get)[n]?, b.contents[n]? with
    | some v, _ => return (v, true)
    | none, none => return (.null, false)
    | none, some contents =>
      if inside.contains n then
        return (.enclosing (contents matches .dict _), false)
      else
        let go := value b fuel (n :: inside)
        let (v, fixed) ← match contents with
          | .list items => do
            let vs ← items.mapM go
            pure (Value.list (vs.map (·.1)), vs.all (·.2))
          | .pairs entries => do
            let vs ← entries.mapM fun (k, v) => do
              let (k, p) ← go k
              let (v, q) ← go v
              return (Value.tuple [k, v], p && q)
            pure (Value.list (vs.map (·.1)), vs.all (·.2))
          | .set keys => pure (Value.set (Value.slotOrder (keys.map (·.value))), true)
          | .dict entries => do
            let vs ← entries.mapM fun (k, v) => do
              let (v, p) ← go v
              return ((k.value, v), p)
            pure (Value.dict (vs.map (·.1)), vs.all (·.2))
        if fixed then modify (·.insert n v)
        return (v, fixed)

/-- The value of the root.  The values of its entries are each written out on their own. -/
def rootValue (b : Builder) (i : Item) : Value :=
  let write (i : Item) : StateM Known Value := return (← value b (b.graph.nodes.size + 1) [] i).1
  let all : StateM Known Value := match i with
    | .scalar k => return k.value
    | .collection n =>
      match b.contents[n]? with
      | some (.dict entries) =>
        return .dict (← entries.mapM fun (k, v) => return (k.value, ← write v))
      | _ => write i
  (all.run ∅).1

end Builder

/-- What a document stands for. -/
def Graph.value (g : Graph) : Except Error Value := do
  let (i, b) ← Builder.root.run { graph := g }
  return b.rootValue i

end ElementCode.Yaml
