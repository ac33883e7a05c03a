import Polyglot.Yaml.Tag
import Polyglot.Yaml.Token

namespace Polyglot.Yaml

/-- What a node holds: a text, or the places of other nodes. -/
inductive Content where
  | scalar (text : String)
  | list (items : List Nat)
  | map (entries : List (Nat × Nat))

/-- A part of a document, with the tag that says what it is. -/
structure Node where
  tag : Tag
  content : Content

def Content.kind : Content → Kind
  | .scalar _ => .scalar
  | .list _ => .list
  | .map _ => .map

def Node.empty : Node := ⟨.null, .scalar ""⟩

/-- The nodes of a document and the place of the outermost one. -/
structure Document where
  nodes : Array Node
  root : Nat

namespace Document

def nodeAt (document : Document) (place : Nat) : Node := document.nodes.getD place .empty

def tagAt (document : Document) (place : Nat) : Tag := (document.nodeAt place).tag

def entriesAt (document : Document) (place : Nat) : List (Nat × Nat) :=
  match (document.nodeAt place).content with
  | .map entries => entries
  | _ => []

def setNode (document : Document) (place : Nat) (node : Node) : Document :=
  { document with nodes := document.nodes.setIfInBounds place node }

end Document

/-- What is known while the nodes are read: the tokens ahead and what is wrong behind them, what the
handles of tags stand for, the nodes so far and the places of those with anchors. -/
structure Source where
  tokens : List Token
  fault : Option Fault := none
  handles : List (String × String) := []
  depth : Nat := 0
  nodes : Array Node := #[]
  anchors : List (String × Nat) := []

abbrev Reading := StateT Source Result

namespace Document

private def fail {α : Type} (flaw : Flaw) : Reading α := throw (.malformed flaw)

/-- The next token, or none at the end. What is wrong behind the tokens shows when one more is asked
for. -/
private def next? : Reading (Option Token) := do
  let source ← get
  match source.tokens, source.fault with
  | token :: _, _ => return some token
  | [], none => return none
  | [], some fault => throw fault

private def drop : Reading Unit := modify fun s => { s with tokens := s.tokens.tail }

private def accept (token : Token) : Reading Bool := do
  if (← next?) == some token then
    drop
    return true
  else return false

private def expect (token : Token) (part : Part) : Reading Unit := do
  if !(← accept token) then fail (.parsing part)

private def nextIs (tokens : List Token) : Reading Bool := do
  return (← next?).any tokens.contains

private def anchor? : Reading (Option String) := do
  match ← next? with
  | some (.anchor name) =>
    drop
    return some name
  | _ => return none

/-- A tag with its handle, which is replaced by what it stands for. -/
private def fullTag : Option String → String → Reading String
  | none, suffix => return suffix
  | some handle, suffix => do
    match (← get).handles.lookup handle with
    | some start => return start ++ suffix
    | none => fail (.parsing .node)

private def tag? : Reading (Option (Option String × String)) := do
  match ← next? with
  | some (.tag handle suffix) =>
    drop
    return some (handle, suffix)
  | _ => return none

private def properties : Reading (Option String × Option String) := do
  let (anchor, tag) ← match ← anchor? with
    | some name => pure (some name, ← tag?)
    | none => match ← tag? with
      | some tag => pure (← anchor?, some tag)
      | none => pure (none, none)
  match tag with
  | some (handle, suffix) => return (anchor, some (← fullTag handle suffix))
  | none => return (anchor, none)

/-- Puts a node behind the others, under an anchor where it has one. -/
private def add (anchor : Option String) (node : Node) : Reading Nat := do
  let place := (← get).nodes.size
  modify fun s => { s with
    nodes := s.nodes.push node
    anchors := anchor.elim s.anchors fun name => (name, place) :: s.anchors }
  return place

private def addEmpty : Reading Nat := add none .empty

def maxOpen : Nat := 485

/-- Puts a list or a map behind the nodes so far and reads its parts, which come behind it. -/
private def collect (anchor : Option String) (tag : Tag) (content : Reading Content) :
    Reading Nat := do
  let place ← add anchor ⟨tag, .list []⟩
  if maxOpen < (← get).depth then throw .tooDeep
  modify fun s => { s with depth := s.depth + 1 }
  let content ← content
  modify fun s => { s with
    depth := s.depth - 1
    nodes := s.nodes.setIfInBounds place ⟨tag, content⟩ }
  return place

private def checkNew (anchor : Option String) : Reading Unit := do
  match anchor with
  | some name => if ((← get).anchors.lookup name).isSome then fail (.secondAnchor name)
  | none => pure ()

/-- The tag of a list or a map. An exclamation mark alone is no tag. -/
private def tagOr (default : Tag) : Option String → Tag
  | none | some "!" => default
  | some name => .ofName name

/-- The tag of a scalar. A plain one is resolved, and so is one with an exclamation mark alone. -/
private def scalarTag (text : String) (plain : Bool) : Option String → Tag
  | none => if plain then .ofPlain text else .text
  | some "!" => .ofPlain text
  | some name => .ofName name

mutual

/-- Reads a node. Lists and maps without brackets are read in a `block` only, and a list whose items
stand in the column of the key above where `flush` says so. -/
private def read (block flush : Bool) : (fuel : Nat) → Reading Nat
  | 0 => fail (.parsing .node)
  | fuel + 1 => do
    match ← next? with
    | some (.alias name) =>
      drop
      match (← get).anchors.lookup name with
      | some place => return place
      | none => fail (.unknownAlias name)
    | _ =>
      let (anchor, tag) ← properties
      let next ← next?
      checkNew anchor
      let asList (items : Reading (List Nat)) : Reading Nat :=
        collect anchor (tagOr .list tag) (.list <$> items)
      let asMap (entries : Reading (List (Nat × Nat))) : Reading Nat :=
        collect anchor (tagOr .map tag) (.map <$> entries)
      let asScalar (text : String) (plain : Bool) : Reading Nat :=
        add anchor ⟨scalarTag text plain tag, .scalar text⟩
      let unwritten : Reading Nat :=
        if anchor.isSome || tag.isSome then asScalar "" true
        else fail (.parsing (if block then .blockNode else .flowNode))
      match next with
      | some (.scalar text plain) =>
        drop
        asScalar text plain
      | some .item => if flush then asList (flushItems fuel) else unwritten
      | some .flowListStart =>
        drop
        asList (flowItems true fuel)
      | some .flowMapStart =>
        drop
        asMap (flowEntries true fuel)
      | token =>
        if block && token == some .blockListStart then
          drop
          asList (blockItems fuel)
        else if block && token == some .blockMapStart then
          drop
          asMap (blockEntries fuel)
        else unwritten

private def readUnless (stops : List Token) (block flush : Bool) : (fuel : Nat) → Reading Nat
  | 0 => fail (.parsing .node)
  | fuel + 1 => do if ← nextIs stops then addEmpty else read block flush fuel

private def blockItems : (fuel : Nat) → Reading (List Nat)
  | 0 => fail (.parsing .blockList)
  | fuel + 1 => do
    if ← accept .item then
      let item ← readUnless [.item, .blockEnd] true false fuel
      return item :: (← blockItems fuel)
    else
      expect .blockEnd .blockList
      return []

private def flushItems : (fuel : Nat) → Reading (List Nat)
  | 0 => fail (.parsing .blockList)
  | fuel + 1 => do
    if ← accept .item then
      let item ← readUnless [.item, .key, .value, .blockEnd] true false fuel
      return item :: (← flushItems fuel)
    else return []

private def blockEntries : (fuel : Nat) → Reading (List (Nat × Nat))
  | 0 => fail (.parsing .blockMap)
  | fuel + 1 => do
    if ← accept .key then
      let stops : List Token := [.key, .value, .blockEnd]
      let key ← readUnless stops true true fuel
      let value ← if ← accept .value then readUnless stops true true fuel else addEmpty
      return (key, value) :: (← blockEntries fuel)
    else
      expect .blockEnd .blockMap
      return []

/-- Reads the items between brackets. A key among them makes a map of one entry. -/
private def flowItems (first : Bool) : (fuel : Nat) → Reading (List Nat)
  | 0 => fail (.parsing .flowList)
  | fuel + 1 => do
    if ← accept .flowListEnd then return []
    if !first then expect .comma .flowList
    if ← accept .flowListEnd then return []
    let item ←
      if ← accept .key then
        collect none .map do
          let key ← readUnless [.value, .comma, .flowListEnd] false false fuel
          let value ←
            if ← accept .value then readUnless [.comma, .flowListEnd] false false fuel else addEmpty
          return .map [(key, value)]
      else read false false fuel
    return item :: (← flowItems false fuel)

private def flowEntries (first : Bool) : (fuel : Nat) → Reading (List (Nat × Nat))
  | 0 => fail (.parsing .flowMap)
  | fuel + 1 => do
    if ← accept .flowMapEnd then return []
    if !first then expect .comma .flowMap
    if ← accept .flowMapEnd then return []
    let entry ←
      if ← accept .key then
        let key ← readUnless [.value, .comma, .flowMapEnd] false false fuel
        let value ←
          if ← accept .value then readUnless [.comma, .flowMapEnd] false false fuel else addEmpty
        pure (key, value)
      else do
        let key ← read false false fuel
        pure (key, ← addEmpty)
    return entry :: (← flowEntries false fuel)

end

/-- Reads the directives of a document: the version, once and of the first generation, and handles,
each once. -/
private def directives (versioned : Bool) : (fuel : Nat) → Reading Unit
  | 0 => fail (.parsing .directive)
  | fuel + 1 => do
    match ← next? with
    | some (.version major) =>
      if versioned then fail .secondVersion
      if major != 1 then fail .otherVersion
      drop
      directives true fuel
    | some (.handle name start) =>
      if ((← get).handles.lookup name).isSome then fail (.secondHandle name)
      modify fun s => { s with tokens := s.tokens.tail, handles := (name, start) :: s.handles }
      directives versioned fuel
    | some .remark =>
      drop
      directives versioned fuel
    | _ => pure ()

def defaultHandles : List (String × String) := [("!", "!"), ("!!", Tag.family)]

private def useDefaults : Reading Unit := modify fun s =>
  { s with handles := s.handles ++ defaultHandles }

/-- Whether a token belongs to the directives of a document or starts it. -/
private def startsDocument : Token → Bool
  | .documentStart | .version _ | .handle .. | .remark => true
  | _ => false

private def heading (fuel : Nat) : Reading Unit := do
  directives false fuel
  if !(← accept .documentStart) then
    fail (.noStart ((← next?).elim "<stream end>" Token.name))

/-- The outermost node. A document with a start marker may have no content. -/
private def rootNode (fuel : Nat) : Reading Nat := do
  if (← next?).any startsDocument then
    heading fuel
    useDefaults
    match ← next? with
    | none | some .documentEnd => addEmpty
    | some token => if startsDocument token then addEmpty else read true false fuel
  else
    useDefaults
    read true false fuel

private def skipEnds : (fuel : Nat) → Reading Unit
  | 0 => fail .secondDocument
  | fuel + 1 => do if ← accept .documentEnd then skipEnds fuel

/-- The outermost node of the only document, or none where there is no document. -/
private def only? (fuel : Nat) : Reading (Option Nat) := do
  if (← next?).isNone then return none
  let root ← rootNode fuel
  skipEnds fuel
  if (← next?).isSome then
    heading fuel
    fail .secondDocument
  return some root

def ofTokens? (tokens : Tokens) : Result (Option Document) := do
  let fuel := 3 * tokens.tokens.length + 3
  let (root, source) ← (only? fuel).run { tokens := tokens.tokens, fault := tokens.fault }
  .ok (root.map fun root => ⟨source.nodes, root⟩)

end Document

end Polyglot.Yaml
