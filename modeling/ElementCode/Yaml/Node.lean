import ElementCode.Yaml.Token

/-!
# YAML nodes

The tokens of a text with one document become scalars, sequences and mappings that refer to each
other by number.  Every node has a tag, written or found from its form.  An alias is the number of
the node that an anchor names, so a collection can hold itself.  A fault in the text counts as soon
as a token after it is asked for.
-/

namespace ElementCode.Yaml

/-- A node; the nodes in it are given by their numbers. -/
inductive Node where
  | scalar (tag : Tag) (text : Text.Points)
  | seq (tag : Tag) (items : List Nat)
  | map (tag : Tag) (entries : List (Nat × Nat))
  deriving DecidableEq

/-- The tag of a node. -/
def Node.tag : Node → Tag
  | scalar tag _ => tag
  | seq tag _ => tag
  | map tag _ => tag

/-- The node that stands where nothing is written. -/
def Node.absent : Node := .scalar .null []

/-- The state of the reading of nodes. -/
structure Reader where
  /-- The tokens still to come. -/
  tokens : List Token
  /-- What is wrong with the text after them. -/
  fault : Error
  /-- What the handles of tags stand for. -/
  handles : List (String × String)
  /-- The numbers of the nodes that anchors name. -/
  anchors : List (String × Nat) := []
  /-- The nodes so far. -/
  nodes : Array Node := #[]

/-- Reads nodes. -/
abbrev Read := StateT Reader (Except Error)

namespace Reader

/-- Gives up. -/
def fail : Read α := throw .invalid

/-- The next token, which stays. -/
def peek : Read Token := do
  match (← get).tokens with
  | t :: _ => return t
  | [] => throw (← get).fault

/-- Passes the next token. -/
def skip : Read Unit := modify fun r => { r with tokens := r.tokens.drop 1 }

/-- Whether the next token is one of some. -/
def next (ts : List Token) : Read Bool := return ts.contains (← peek)

/-- Passes the next token if it is a given one; says whether it was. -/
def accept (t : Token) : Read Bool := do
  if ← next [t] then
    skip
    return true
  else return false

/-- Passes a token that has to come. -/
def expect (t : Token) : Read Unit := do
  if ← accept t then return () else fail

/-- The anchor at the front, if there is one. -/
def anchor : Read (Option String) := do
  match ← peek with
  | .anchor name =>
    skip
    return some name
  | _ => return none

/-- The tag at the front, if there is one: its handle and what follows the handle. -/
def tag : Read (Option (Option String × String)) := do
  match ← peek with
  | .tag handle suffix =>
    skip
    return some (handle, suffix)
  | _ => return none

/-- The full name of a tag. -/
def tagName (t : Option String × String) : Read String := do
  match t with
  | (none, suffix) => return suffix
  | (some handle, suffix) =>
    match (← get).handles.find? (·.1 == handle) with
    | some (_, text) => return text ++ suffix
    | none => fail

/-- The anchor and the full name of the tag before a node, in either order. -/
def properties : Read (Option String × Option String) := do
  match ← anchor with
  | some name => return (some name, ← (← tag).mapM tagName)
  | none =>
    match ← tag with
    | some t =>
      let name ← anchor
      return (name, some (← tagName t))
    | none => return (none, none)

/-- Adds a node; gives its number. -/
def add (n : Node) : Read Nat := do
  let number := (← get).nodes.size
  modify fun r => { r with nodes := r.nodes.push n }
  return number

/-- Adds a node and makes an anchor name it. -/
def addNamed (anchor : Option String) (n : Node) : Read Nat := do
  let number ← add n
  match anchor with
  | some name => modify fun r => { r with anchors := (name, number) :: r.anchors }
  | none => pure ()
  return number

/-- Replaces a node. -/
def put (number : Nat) (n : Node) : Read Unit :=
  modify fun r => { r with nodes := r.nodes.setIfInBounds number n }

/-- The tag of a scalar, given the one that is written. -/
def scalarTag (written : Option String) (text : Text.Points) (plain : Bool) : Tag :=
  match written with
  | none => if plain then .ofPlain text.toChars else .str
  | some "!" => .ofPlain text.toChars
  | some name => .ofName name

/-- The tag of a collection, given the one that is written. -/
def collectionTag (written : Option String) (own : Tag) : Tag :=
  match written with
  | none => own
  | some "!" => own
  | some name => .ofName name

/-- A sequence with its items.  It can be named before they are read. -/
def sequence (anchor written : Option String) (items : Read (List Nat)) : Read Nat := do
  let tag := collectionTag written .seq
  let number ← addNamed anchor (.seq tag [])
  put number (.seq tag (← items))
  return number

/-- A mapping with its entries.  It can be named before they are read. -/
def mapping (anchor written : Option String) (entries : Read (List (Nat × Nat))) : Read Nat := do
  let tag := collectionTag written .map
  let number ← addNamed anchor (.map tag [])
  put number (.map tag (← entries))
  return number

/-- A scalar. -/
def scalar (anchor written : Option String) (text : Text.Points) (plain : Bool) : Read Nat :=
  addNamed anchor (.scalar (scalarTag written text plain) text)

/-- An empty scalar, which needs an anchor or a tag. -/
def empty (anchor written : Option String) : Read Nat :=
  if anchor.isNone && written.isNone then fail else scalar anchor written [] true

/-- Requires that an anchor is new. -/
def requireNew (anchor : Option String) : Read Unit := do
  let named := (← get).anchors
  if anchor.any fun a => named.any (·.1 == a) then fail else return ()

mutual

/-- The number of the next node; `block` says that it may be a block, and `inMapping` that a
sequence in a block may start without indentation. -/
def node (block inMapping : Bool) : Nat → Read Nat
  | 0 => fail
  | fuel + 1 => do
    match ← peek with
    | .alias name =>
      skip
      match (← get).anchors.find? (·.1 == name) with
      | some (_, number) => return number
      | none => fail
    | _ =>
      let (anchor, written) ← properties
      match ← peek with
      | .scalar text plain =>
        skip
        requireNew anchor
        scalar anchor written text plain
      | .blockEntry =>
        if inMapping then
          requireNew anchor
          sequence anchor written (plainEntries fuel)
        else lone anchor written
      | .flowSequenceStart =>
        requireNew anchor
        skip
        sequence anchor written (flowItems true fuel)
      | .flowMappingStart =>
        requireNew anchor
        skip
        mapping anchor written (flowEntries true fuel)
      | .blockSequenceStart =>
        if block then
          requireNew anchor
          skip
          sequence anchor written (blockItems fuel)
        else lone anchor written
      | .blockMappingStart =>
        if block then
          requireNew anchor
          skip
          mapping anchor written (blockEntries fuel)
        else lone anchor written
      | _ => lone anchor written
where
  /-- An anchor or a tag without content. -/
  lone (anchor written : Option String) : Read Nat := do
    requireNew anchor
    empty anchor written

/-- A node, unless one of some tokens follows, which leaves it out. -/
def nodeUnless (stops : List Token) (block inMapping : Bool) : Nat → Read Nat
  | 0 => fail
  | fuel + 1 => do
    if ← next stops then add .absent else node block inMapping fuel

/-- The items of a block sequence, up to its end. -/
def blockItems : Nat → Read (List Nat)
  | 0 => fail
  | fuel + 1 => do
    if ← accept .blockEntry then
      let n ← nodeUnless [.blockEntry, .blockEnd] true false fuel
      return n :: (← blockItems fuel)
    else
      expect .blockEnd
      return []

/-- The items of a sequence in a mapping that is not indented. -/
def plainEntries : Nat → Read (List Nat)
  | 0 => fail
  | fuel + 1 => do
    if ← accept .blockEntry then
      let n ← nodeUnless [.blockEntry, .key, .value, .blockEnd] true false fuel
      return n :: (← plainEntries fuel)
    else return []

/-- The entries of a block mapping, up to its end. -/
def blockEntries : Nat → Read (List (Nat × Nat))
  | 0 => fail
  | fuel + 1 => do
    if ← accept .key then
      let k ← nodeUnless [.key, .value, .blockEnd] true true fuel
      let v ← if ← accept .value then nodeUnless [.key, .value, .blockEnd] true true fuel
        else add .absent
      return (k, v) :: (← blockEntries fuel)
    else
      expect .blockEnd
      return []

/-- The items of a flow sequence, up to its end; an entry of a mapping may be one. -/
def flowItems (first : Bool) : Nat → Read (List Nat)
  | 0 => fail
  | fuel + 1 => do
    if ← accept .flowSequenceEnd then return []
    else
      if !first then expect .flowEntry
      if ← accept .key then
        let k ← nodeUnless [.value, .flowEntry, .flowSequenceEnd] false false fuel
        let v ← if ← accept .value then nodeUnless [.flowEntry, .flowSequenceEnd] false false fuel
          else add .absent
        let pair ← add (.map .map [(k, v)])
        return pair :: (← flowItems false fuel)
      else if ← accept .flowSequenceEnd then return []
      else
        let n ← node false false fuel
        return n :: (← flowItems false fuel)

/-- The entries of a flow mapping, up to its end; a key alone has no value. -/
def flowEntries (first : Bool) : Nat → Read (List (Nat × Nat))
  | 0 => fail
  | fuel + 1 => do
    if ← accept .flowMappingEnd then return []
    else
      if !first then expect .flowEntry
      if ← accept .key then
        let k ← nodeUnless [.value, .flowEntry, .flowMappingEnd] false false fuel
        let v ← if ← accept .value then nodeUnless [.flowEntry, .flowMappingEnd] false false fuel
          else add .absent
        return (k, v) :: (← flowEntries false fuel)
      else if ← accept .flowMappingEnd then return []
      else
        let k ← node false false fuel
        let v ← add .absent
        return (k, v) :: (← flowEntries false fuel)

end

/-! ## Documents -/

/-- The handles that are always there. -/
def standardHandles : List (String × String) := [("!", "!"), ("!!", standardTags)]

/-- The directives before a document: what they make handles stand for.  `versioned` says that the
version has been given. -/
def directives : Nat → Bool → List (String × String) → Read (List (String × String))
  | 0, _, _ => fail
  | fuel + 1, versioned, handles => do
    match ← peek with
    | .version major =>
      if versioned || major != 1 then fail
      else
        skip
        directives fuel true handles
    | .handle name text =>
      if handles.any (·.1 == name) then fail
      else
        skip
        directives fuel versioned (handles ++ [(name, text)])
    | .directive =>
      skip
      directives fuel versioned handles
    | _ => return handles

/-- The directives and the mark before a document. -/
def documentStart (fuel : Nat) : Read Unit := do
  let handles ← directives fuel false []
  expect .documentStart
  modify fun r => { r with handles := handles ++ standardHandles }

/-- Passes the marks that end documents. -/
def documentEnds : Nat → Read Unit
  | 0 => return ()
  | fuel + 1 => do
    if ← accept .documentEnd then documentEnds fuel else return ()

/-- The end of the only document of a stream.  What else comes is read as the start of another
document. -/
def streamEnd (fuel : Nat) : Read Unit := do
  documentEnds fuel
  if ← accept .streamEnd then return ()
  else
    documentStart fuel
    fail

/-- The root of a document with directives or a start mark. -/
def explicitDocument (fuel : Nat) : Read Nat := do
  documentStart fuel
  match ← peek with
  | .documentStart | .documentEnd | .streamEnd | .directive | .version _ | .handle _ _ =>
    add .absent
  | _ => node true false fuel

/-- The root of the only document of a stream, if there is one. -/
def stream (fuel : Nat) : Read (Option Nat) := do
  match ← peek with
  | .streamEnd => return none
  | .documentStart | .directive | .version _ | .handle _ _ =>
    let root ← explicitDocument fuel
    streamEnd fuel
    return some root
  | _ =>
    let root ← node true false fuel
    streamEnd fuel
    return some root

end Reader

/-- The nodes of a document and the number of its root. -/
structure Graph where
  /-- The nodes. -/
  nodes : Array Node
  /-- The number of the root. -/
  root : Nat
  deriving DecidableEq

/-- The document that tokens stand for, if there is one.  A stream of several documents is an
error. -/
def Graph.ofScan (s : Scan) : Except Error (Option Graph) := do
  let start : Reader :=
    { tokens := s.tokens, fault := s.fault.getD .invalid, handles := Reader.standardHandles }
  let (root, r) ← Reader.stream (3 * s.tokens.length + 10) start
  return root.map (⟨r.nodes, ·⟩)

end ElementCode.Yaml
