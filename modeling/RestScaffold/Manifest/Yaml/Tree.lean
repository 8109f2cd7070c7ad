import RestScaffold.Manifest.Node
import RestScaffold.Manifest.Yaml.Layout

/-!
# YAML documents

The tree of nodes that a list of tokens describes. Tokens are read by recursive descent; each part
reads a token before it reads another part of its kind, so the number of tokens bounds the depth.

An alias refers to a node by number. A name that is given to a node for the first time gets the
number of names before it, and a name that is given again gets a number in the same way, so a later
anchor may take a number over; then every alias of that number refers to the later node.
-/

namespace RestScaffold.Yaml

/-- What has been built. -/
structure Building where
  tokens : List Token
  /-- The names of anchors, each with its latest number. -/
  names : List (Text × Nat) := []
  /-- The numbers of the anchored nodes in order of their starts, the latest first. -/
  numbers : List Nat := []
  /-- The complete anchored nodes, by their place in that order. -/
  nodes : List (Nat × Node) := []
  /-- The handles that tags may use. -/
  handles : List Text := []
  /-- How many places there are where a node starts or ends. -/
  events : Nat := 0

/-- A step of building. -/
abbrev Builder (α : Type) := StateT Building Option α

namespace Builder

/-- Stops building. -/
def fail {α : Type} : Builder α := fun _ => none

/-- The next token. -/
def peek : Builder (Option Token) := do return (← get).tokens.head?

/-- Passes over the next token. -/
def skip : Builder Unit := modify fun b => { b with tokens := b.tokens.tail }

/-- Passes over the next token if it is the given one, and says whether it is. -/
def skipIf (t : Token) : Builder Bool := do
  if (← peek) = some t then
    skip
    return true
  return false

/-- Whether the next token is one of a list. -/
def nextIn (ts : List Token) : Builder Bool := do
  match ← peek with
  | some t => return ts.contains t
  | none => return false

/-- Counts places where nodes start or end. -/
def count (n : Nat) : Builder Unit := modify fun b => { b with events := b.events + n }

/-- A node without content. -/
def blank : Builder Node := do
  count 1
  return .blank

/-- The node that an alias refers to. -/
def reference (name : Text) : Builder Node := do
  match (← get).names.lookup name with
  | some number => return .reference number
  | none => fail

/-- Gives a name to the node that starts here: its place among the anchored nodes. -/
def giveName (name : Text) : Builder Nat := do
  let b ← get
  let number := b.names.length
  set { b with
    names := (name, number) :: b.names.filter (·.1 ≠ name)
    numbers := number :: b.numbers }
  return b.numbers.length

/-- Keeps a complete anchored node. -/
def keep (place : Nat) (n : Node) : Builder Unit :=
  modify fun b => { b with nodes := (place, n) :: b.nodes }

/-- The anchor and the tag in front of a node, in either order. -/
def properties : Builder (Option Text × Option Text) := do
  match ← peek with
  | some (.anchor name) =>
    skip
    match ← peek with
    | some (.tag handle) =>
      skip
      return (some name, some handle)
    | _ => return (some name, none)
  | some (.tag handle) =>
    skip
    match ← peek with
    | some (.anchor name) =>
      skip
      return (some name, some handle)
    | _ => return (none, some handle)
  | _ => return (none, none)

/-- Fails if a tag uses a handle that is not known. -/
def checkTag (tag : Option Text) : Builder Unit := do
  match tag with
  | none => return ()
  | some handle => if handle ≠ [] && !((← get).handles.contains handle) then fail

/-- Keeps a node under the anchor in front of it, if there is one. -/
def named (anchor : Option Text) (build : Builder Node) : Builder Node := do
  match anchor with
  | none => build
  | some name =>
    let place ← giveName name
    let n ← build
    keep place n
    return n

mutual

/-- Builds a node. A block may start here if `inBlock`; if `mayHang`, the items of a list may start
in the column of the mapping around it. -/
def node (inBlock mayHang : Bool) : Nat → Builder Node
  | 0 => fail
  | fuel + 1 => do
    match ← peek with
    | some (.reference name) =>
      skip
      count 1
      reference name
    | _ =>
      let (anchor, tag) ← properties
      checkTag tag
      named anchor do
        match ← peek with
        | some (.scalar isPlain content) =>
          skip
          count 1
          return if isPlain && content = [] then .blank else .text (some content)
        | some .flowListStart =>
          skip
          count 2
          return .list (← flowItems true fuel)
        | some .flowMappingStart =>
          skip
          count 2
          return .mapping (← flowEntries true fuel)
        | t =>
          if t = some .blockEntry && mayHang then
            count 2
            return .list (← hangingItems fuel)
          else if t = some .blockListStart && inBlock then
            skip
            count 2
            return .list (← blockItems fuel)
          else if t = some .blockMappingStart && inBlock then
            skip
            count 2
            return .mapping (← blockEntries fuel)
          else if anchor.isSome || tag.isSome then blank
          else fail

/-- Builds the items of a block. -/
def blockItems : Nat → Builder (List Node)
  | 0 => fail
  | fuel + 1 => do
    if ← skipIf .blockEnd then return []
    if ← skipIf .blockEntry then
      let item ← if ← nextIn [.blockEntry, .blockEnd] then blank else node true false fuel
      return item :: (← blockItems fuel)
    fail

/-- Builds the items of a list that hangs in the column of a mapping. -/
def hangingItems : Nat → Builder (List Node)
  | 0 => fail
  | fuel + 1 => do
    if ← skipIf .blockEntry then
      let item ←
        if ← nextIn [.blockEntry, .key, .value, .blockEnd] then blank else node true false fuel
      return item :: (← hangingItems fuel)
    return []

/-- Builds the entries of a block. -/
def blockEntries : Nat → Builder (List (Node × Node))
  | 0 => fail
  | fuel + 1 => do
    if ← skipIf .blockEnd then return []
    if ← skipIf .key then
      let key ← if ← nextIn [.key, .value, .blockEnd] then blank else node true true fuel
      let value ←
        if ← skipIf .value then
          if ← nextIn [.key, .value, .blockEnd] then blank else node true true fuel
        else blank
      return (key, value) :: (← blockEntries fuel)
    fail

/-- Builds the items of a list in brackets. An item that is a key with a value is a mapping of one
entry. -/
def flowItems (first : Bool) : Nat → Builder (List Node)
  | 0 => fail
  | fuel + 1 => do
    if ← skipIf .flowListEnd then return []
    if !first then
      if !(← skipIf .flowEntry) then fail
      if ← skipIf .flowListEnd then return []
    let item ←
      if ← skipIf .key then
        count 2
        let key ←
          if ← nextIn [.value, .flowEntry, .flowListEnd] then
            skip
            blank
          else node false false fuel
        let value ←
          if ← skipIf .value then
            if ← nextIn [.flowEntry, .flowListEnd] then blank else node false false fuel
          else blank
        pure (.mapping [(key, value)])
      else node false false fuel
    return item :: (← flowItems false fuel)

/-- Builds the entries of a mapping in brackets. A key may stand without a value. -/
def flowEntries (first : Bool) : Nat → Builder (List (Node × Node))
  | 0 => fail
  | fuel + 1 => do
    if ← skipIf .flowMappingEnd then return []
    if !first then
      if !(← skipIf .flowEntry) then fail
      if ← skipIf .flowMappingEnd then return []
    let entry ←
      if ← skipIf .key then
        let key ←
          if ← nextIn [.value, .flowEntry, .flowMappingEnd] then blank
          else node false false fuel
        let value ←
          if ← skipIf .value then
            if ← nextIn [.flowEntry, .flowMappingEnd] then blank else node false false fuel
          else blank
        pure (key, value)
      else do
        let key ← node false false fuel
        pure (key, ← blank)
    return entry :: (← flowEntries false fuel)

end

/-- Reads the directives in front of a document: a version that is known, at most once, and tag
handles, each at most once. -/
def directives (versioned : Bool) : Nat → Builder Unit
  | 0 => fail
  | fuel + 1 => do
    match ← peek with
    | some (.versionDirective major minor) =>
      if versioned || major ≠ 1 || (minor ≠ 1 && minor ≠ 2) then fail
      skip
      directives true fuel
    | some (.tagDirective handle) =>
      if (← get).handles.contains handle then fail
      skip
      modify fun b => { b with handles := handle :: b.handles }
      directives versioned fuel
    | _ => modify fun b => { b with handles := (["!", "!!"] : List Text) ++ b.handles }

/-- Passes over the marks behind a document. -/
def documentEnds : Nat → Builder Unit
  | 0 => return ()
  | fuel + 1 => do if ← skipIf .documentEnd then documentEnds fuel

/-- Whether the next token starts a document with a mark or directives in front of it. -/
def atMarkedDocument : Builder Bool := do
  match ← peek with
  | some .documentStart => return true
  | some (.versionDirective _ _) => return true
  | some (.tagDirective _) => return true
  | _ => return false

/-- Builds the root of the only document. -/
def root (fuel : Nat) : Builder Node := do
  if (← peek).isNone then blank
  else
    let marked ← atMarkedDocument
    directives false fuel
    if marked then
      if !(← skipIf .documentStart) then fail
    let isEmpty ←
      if (← peek).isNone then pure true
      else if ← nextIn [.documentEnd] then pure true
      else atMarkedDocument
    let n ← if marked && isEmpty then blank else node true false fuel
    documentEnds fuel
    if (← peek).isSome then fail
    return n

end Builder

/-- The anchored node of each number: of the nodes with the same number, the one that started
last. -/
def Building.anchors (b : Building) : List (Nat × Node) :=
  let places := (List.range b.numbers.length).reverse.zip b.numbers
  places.filterMap fun (place, number) => (b.nodes.lookup place).map fun n => (number, n)

/-- The document of a YAML text. References may be followed a hundred times as often as there are
places in the document. -/
def read? (s : Text) : Option Document := do
  let tokens ← Token.ofText? s
  let (root, b) ← Builder.root (3 * tokens.length + 3) { tokens }
  return { root, anchors := b.anchors, maxReferences := 100 * b.events }

end RestScaffold.Yaml
