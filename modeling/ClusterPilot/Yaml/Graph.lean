/-
From the tokens of a YAML text to its nodes. The nodes form a graph: an alias is the node that its
anchor names, also inside that node. Nodes are named by their numbers, in the order in which they
start, and a text has to hold one document at most.

What reads nodes looks at the next token and never further; a scan that broke off is an error for
the reader only once it gets there.
-/
import ClusterPilot.Yaml.Scan
import ClusterPilot.Yaml.Tag

namespace ClusterPilot.Yaml

/-- What a node holds; nodes inside are given by their numbers. -/
inductive Content where
  | scalar (text : List Char)
  | sequence (items : List Nat)
  | mapping (entries : List (Nat × Nat))
  deriving DecidableEq, Repr, Inhabited

/-- A node: what it stands for and what it holds. -/
structure Node where
  tag : Tag
  content : Content
  deriving DecidableEq, Repr

/-- How many calls the reader may be in at a time. -/
def maxCalls : Nat := 970

/-- How many collections may be inside each other. Each one takes two calls. -/
def maxNesting : Nat := maxCalls / 2

/-- A reader of nodes. -/
structure Builder where
  /-- What is left to read. -/
  scan : Scan
  /-- The nodes that have started, the last one first. -/
  nodes : List Node
  /-- The nodes that have anchors. -/
  anchors : List (List Char × Nat)
  /-- What the shorthands of tags stand for. -/
  handles : List (List Char × List Char)

/-- What reads a part of a document. -/
abbrev Build := StateT Builder (Except Error)

namespace Builder

/-- The shorthands that need no directive. -/
def standardHandles : List (List Char × List Char) :=
  [(['!'], ['!']), (['!', '!'], Tag.standard)]

/-! ## Tokens -/

/-- The next token; there is none at the end of the text. -/
def peek : Build (Option Token) := do
  let scan := (← get).scan
  match scan.tokens, scan.error with
  | t :: _, _ => pure (some t)
  | [], none => pure none
  | [], some e => throw e

/-- Leaves the next token behind. -/
def drop : Build Unit :=
  modify fun b => { b with scan := { b.scan with tokens := b.scan.tokens.tail } }

/-- Whether the next token is one of some kinds. -/
def isNext (kinds : List Token) : Build Bool := do
  match ← peek with
  | some t => pure (kinds.contains t)
  | none => pure false

/-- Leaves the next token behind when it is a given one. -/
def take (t : Token) : Build Bool := do
  if ← isNext [t] then drop; pure true else pure false

/-- Leaves the next token behind, which has to be a given one. -/
def expect (t : Token) : Build Unit := do
  if ← take t then pure () else throw .unexpectedToken

/-! ## Nodes -/

/-- Starts a node and gives its number. -/
def start (anchor : Option (List Char)) (node : Node) : Build Nat := do
  let b ← get
  let i := b.nodes.length
  let anchors := match anchor with
    | some a => (a, i) :: b.anchors
    | none => b.anchors
  set { b with nodes := node :: b.nodes, anchors }
  pure i

/-- Sets what a node holds that has started. -/
def fill (i : Nat) (content : Content) : Build Unit :=
  modify fun b => { b with nodes := b.nodes.modify (b.nodes.length - 1 - i) ({ · with content }) }

/-- A scalar that is not written. -/
def emptyScalar : Build Nat := start none ⟨Tag.ofPlain [], .scalar []⟩

/-- What stands in front of a node: its anchor and its tag, in either order. -/
def properties : Build (Option (List Char) × Option (List Char)) := do
  let anchor : Build (Option (List Char)) := do
    match ← peek with
    | some (.anchor name) => drop; pure (some name)
    | _ => pure none
  let tag : Build (Option TagName) := do
    match ← peek with
    | some (.tag name) => drop; pure (some name)
    | _ => pure none
  let first ← anchor
  let name ← tag
  let second ← if first.isNone ∧ name.isSome then anchor else pure none
  let whole ←
    match name with
    | none => pure none
    | some ⟨none, suffix⟩ => pure (some suffix)
    | some ⟨some handle, suffix⟩ =>
      match (← get).handles.lookup handle with
      | some expansion => pure (some (expansion ++ suffix))
      | none => throw .badTag
  pure (first <|> second, whole)

/-- The tag of a node: the one written, or the one that a node without a tag has. -/
def tagOr (implicit : Tag) : Option (List Char) → Tag
  | none => implicit
  | some name => if name = ['!'] then implicit else Tag.ofName name

/-- The tag of a scalar. A lone exclamation mark has it read as a plain one. -/
def scalarTag (text : List Char) (plain : Bool) (tag : Option (List Char)) : Tag :=
  match tag with
  | none => if plain then Tag.ofPlain text else .text
  | some _ => tagOr (Tag.ofPlain text) tag

mutual

/-- A node. Outside of flow collections it may be a collection in block style; where `compact` is
set, a sequence may start at the column of the mapping around it. `depth` is the number of
collections that may still be opened. -/
def node (fuel : Nat) (inBlock compact : Bool) (depth : Nat) : Build Nat := do
  match fuel, ← peek with
  | 0, _ => throw .tooDeep
  | _, some (.alias name) =>
    drop
    match (← get).anchors.lookup name with
    | some i => pure i
    | none => throw .undefinedAlias
  | fuel + 1, _ =>
    let (anchor, tag) ← properties
    let next ← peek
    let anchors := (← get).anchors
    if anchor.any fun a => (anchors.lookup a).isSome then throw .repeatedAnchor
    let sequence (read : Nat → Build (List Nat)) : Build Nat := do
      let i ← start anchor ⟨tagOr .sequence tag, .sequence []⟩
      match depth with
      | 0 => throw .tooDeep
      | depth + 1 => fill i (.sequence (← read depth))
      pure i
    let mapping (read : Nat → Build (List (Nat × Nat))) : Build Nat := do
      let i ← start anchor ⟨tagOr .mapping tag, .mapping []⟩
      match depth with
      | 0 => throw .tooDeep
      | depth + 1 => fill i (.mapping (← read depth))
      pure i
    match next with
    | some (.scalar text plain) =>
      drop
      start anchor ⟨scalarTag text plain tag, .scalar text⟩
    | some .flowSequenceStart => drop; sequence (flowItems fuel true)
    | some .flowMappingStart => drop; mapping (flowEntries fuel true)
    | t =>
      if compact ∧ t = some .blockEntry then sequence (compactItems fuel)
      else if inBlock ∧ t = some .blockSequenceStart then drop; sequence (blockItems fuel)
      else if inBlock ∧ t = some .blockMappingStart then drop; mapping (blockEntries fuel)
      else if anchor.isSome ∨ tag.isSome then start anchor ⟨scalarTag [] true tag, .scalar []⟩
      else throw .unexpectedToken

/-- The items of a sequence in block style. -/
def blockItems (fuel : Nat) (depth : Nat) : Build (List Nat) := do
  match fuel with
  | 0 => throw .tooDeep
  | fuel + 1 =>
    if ← take .blockEntry then
      let item ←
        if ← isNext [.blockEntry, .blockEnd] then emptyScalar else node fuel true false depth
      pure (item :: (← blockItems fuel depth))
    else
      expect .blockEnd
      pure []

/-- The items of a sequence at the column of the mapping around it. -/
def compactItems (fuel : Nat) (depth : Nat) : Build (List Nat) := do
  match fuel with
  | 0 => throw .tooDeep
  | fuel + 1 =>
    if ← take .blockEntry then
      let item ←
        if ← isNext [.blockEntry, .key, .value, .blockEnd] then emptyScalar
        else node fuel true false depth
      pure (item :: (← compactItems fuel depth))
    else pure []

/-- The entries of a mapping in block style. -/
def blockEntries (fuel : Nat) (depth : Nat) : Build (List (Nat × Nat)) := do
  match fuel with
  | 0 => throw .tooDeep
  | fuel + 1 =>
    let part : Build Nat := do
      if ← isNext [.key, .value, .blockEnd] then emptyScalar else node fuel true true depth
    if ← take .key then
      let key ← part
      let value ← if ← take .value then part else emptyScalar
      pure ((key, value) :: (← blockEntries fuel depth))
    else
      expect .blockEnd
      pure []

/-- The items of a sequence in flow style. An item with the sign of a key is a mapping. -/
def flowItems (fuel : Nat) (first : Bool) (depth : Nat) : Build (List Nat) := do
  match fuel with
  | 0 => throw .tooDeep
  | fuel + 1 =>
    if ← take .flowSequenceEnd then pure []
    else
      if !first then expect .flowEntry
      if ← take .flowSequenceEnd then pure []
      else
        let item ←
          if ← take .key then
            let part (ends : List Token) : Build Nat := do
              if ← isNext ends then emptyScalar else node fuel false false (depth - 1)
            let i ← start none ⟨.mapping, .mapping []⟩
            if depth = 0 then throw .tooDeep
            let key ← part [.value, .flowEntry, .flowSequenceEnd]
            let value ←
              if ← take .value then part [.flowEntry, .flowSequenceEnd] else emptyScalar
            fill i (.mapping [(key, value)])
            pure i
          else node fuel false false depth
        pure (item :: (← flowItems fuel false depth))

/-- The entries of a mapping in flow style. -/
def flowEntries (fuel : Nat) (first : Bool) (depth : Nat) : Build (List (Nat × Nat)) := do
  match fuel with
  | 0 => throw .tooDeep
  | fuel + 1 =>
    if ← take .flowMappingEnd then pure []
    else
      if !first then expect .flowEntry
      if ← take .flowMappingEnd then pure []
      else
        let part (ends : List Token) : Build Nat := do
          if ← isNext ends then emptyScalar else node fuel false false depth
        let entry ←
          if ← take .key then
            let key ← part [.value, .flowEntry, .flowMappingEnd]
            let value ← if ← take .value then part [.flowEntry, .flowMappingEnd] else emptyScalar
            pure (key, value)
          else
            let key ← node fuel false false depth
            pure (key, ← emptyScalar)
        pure (entry :: (← flowEntries fuel false depth))

end

/-! ## Documents -/

/-- The directives in front of a document. -/
def directives (fuel : Nat) (versioned : Bool) (handles : List (List Char × List Char)) :
    Build (List (List Char × List Char)) := do
  match fuel with
  | 0 => pure handles
  | fuel + 1 =>
    match ← peek with
    | some (.versionDirective major) =>
      if versioned ∨ major ≠ 1 then throw .badDirective
      drop
      directives fuel true handles
    | some (.tagDirective handle expansion) =>
      if (handles.lookup handle).isSome then throw .badDirective
      drop
      directives fuel versioned ((handle, expansion) :: handles)
    | some .otherDirective => drop; directives fuel versioned handles
    | _ => pure handles

/-- Leaves the marks behind that end documents. -/
def skipEnds (fuel : Nat) : Build Unit := do
  match fuel with
  | 0 => pure ()
  | fuel + 1 => if ← take .documentEnd then skipEnds fuel else pure ()

/-- Whether a token can stand in front of a document. -/
def isDirective : Token → Bool
  | .versionDirective _ | .tagDirective .. | .otherDirective => true
  | _ => false

/-- A document that starts with its mark, and the directives before it. -/
def openDocument (fuel : Nat) : Build Unit := do
  let handles ← directives fuel false []
  expect .documentStart
  modify fun b => { b with handles := handles ++ standardHandles }

/-- The node of the only document of a text, or nothing when the text is empty. Of another document
no more is read than its front. -/
def document (fuel : Nat) : Build (Option Nat) := do
  match ← peek with
  | none => pure none
  | some t =>
    let root ←
      if isDirective t ∨ t = .documentStart then
        openDocument fuel
        match ← peek with
        | none => emptyScalar
        | some t =>
          if isDirective t ∨ t = .documentStart ∨ t = .documentEnd then emptyScalar
          else node fuel true false maxNesting
      else node fuel true false maxNesting
    skipEnds fuel
    match ← peek with
    | none => pure (some root)
    | some _ => openDocument fuel; throw .severalDocuments

end Builder

/-- The nodes of a document, by their numbers, and the number of the outermost one. -/
structure Graph where
  nodes : Array Node
  root : Nat

/-- The graph of the document in a text, or nothing when the text holds none. -/
def Graph.ofScan (scan : Scan) : Except Error (Option Graph) := do
  let start : Builder := ⟨scan, [], [], Builder.standardHandles⟩
  let (root, b) ← (Builder.document (2 * scan.tokens.length + 4)).run start
  pure (root.map fun i => ⟨b.nodes.reverse.toArray, i⟩)

end ClusterPilot.Yaml
