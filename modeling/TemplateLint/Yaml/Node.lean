import TemplateLint.Yaml.Token

/-!
# Nodes of a YAML text

`documents?` reads the documents of a text. A document is a node: a scalar, a sequence or a mapping. A
node may have a tag, and it may have an anchor by which aliases further on refer to it.

Anchors have numbers. The number of an anchor is how many names of anchors there are before it, and a
name that comes again is not one more. So a name may get a new number, and two names may have the same
one. A number leads to the node that started last among those that have it, be that before the alias,
behind it or around it.
-/

namespace TemplateLint.Yaml

inductive Node where
  | scalar (tag : Option Tag) (style : ScalarStyle) (text : String)
  | sequence (tag : Option Tag) (items : List Node)
  | mapping (tag : Option Tag) (pairs : List (Node × Node))
  /-- An alias, by the number of its anchor. -/
  | reference (number : Nat)

namespace Node

def missing : Node := .scalar none .plain ""

mutual

/-- How many parts a node is written with: a collection has two beside what it holds. -/
def parts : Node → Nat
  | sequence _ items => itemParts items + 2
  | mapping _ pairs => pairParts pairs + 2
  | reference _ => 1
  | scalar .. => 1

def itemParts : List Node → Nat
  | [] => 0
  | n :: ns => n.parts + itemParts ns

def pairParts : List (Node × Node) → Nat
  | [] => 0
  | (k, v) :: ps => k.parts + v.parts + pairParts ps

end

end Node

structure Document where
  root : Node
  /-- The nodes that the numbers of anchors lead to. -/
  targets : List (Nat × Node)

/-! ### Reading -/

/-- What is left to read, and what is known from before. -/
structure Reading where
  tokens : List Token
  /-- The numbers of anchors. -/
  anchors : List (String × Nat) := []
  /-- The numbers of nodes with an anchor in the order in which they start, the last first. Each comes
  with how many there were before. -/
  starts : List (Nat × Nat) := []
  /-- The nodes with an anchor, by how many of them started before. -/
  nodes : List (Nat × Node) := []
  /-- What tag handles stand for. -/
  handles : List (String × Tag) := []

abbrev Read := StateT Reading Option

namespace Read

def peek : Read (Option Token) := return (← get).tokens.head?

def skip : Read Unit := modify fun r => { r with tokens := r.tokens.drop 1 }

/-- Leaves the next token behind if it is a given one, and says whether it was. -/
def skipIf (t : Token) : Read Bool := do
  if (← peek) = some t then
    skip
    return true
  return false

def isNext (ts : List Token) : Read Bool := return (← peek).any (ts.contains ·)

/-- The full tag of a tag that is written with a handle. -/
def fullTag (t : TagName) : Read Tag := do
  if t.handle = "" then return t.suffix
  match (← get).handles.lookup t.handle with
  | some start => return start ++ t.suffix
  | none => failure

/-- The anchor and the tag of a node, in either order. -/
def properties : Read (Option String × Option Tag) := do
  match ← peek with
  | some (.anchor name) =>
    skip
    match ← peek with
    | some (.tag t) =>
      skip
      return (some name, some (← fullTag t))
    | _ => return (some name, none)
  | some (.tag t) =>
    skip
    match ← peek with
    | some (.anchor name) =>
      skip
      return (some name, some (← fullTag t))
    | _ => return (none, some (← fullTag t))
  | _ => return (none, none)

def referenceNode (name : String) : Read Node := do
  match (← get).anchors.lookup name with
  | some number => return .reference number
  | none => failure

/-- Gives the name of a node that starts its number, and says how many nodes with an anchor started
before. -/
def startAnchor (name : String) : Read Nat := do
  let r ← get
  let number := r.anchors.length
  let started := r.starts.length
  set { r with
    anchors := (name, number) :: r.anchors.filter (·.1 ≠ name)
    starts := (number, started) :: r.starts }
  return started

def anchored (anchor : Option String) (read : Read Node) : Read Node := do
  match anchor with
  | none => read
  | some name =>
    let started ← startAnchor name
    let n ← read
    modify fun r => { r with nodes := (started, n) :: r.nodes }
    return n

mutual

/-- Reads a node. Block collections are allowed where `block` says so, and where `indentless` says so a
sequence may stand at the column of the mapping around it. -/
def node (block indentless : Bool) : (steps : Nat) → Read Node
  | 0 => failure
  | steps + 1 => do
    match ← peek with
    | some (.reference name) =>
      skip
      referenceNode name
    | _ =>
      let (anchor, tag) ← properties
      match ← peek with
      | some (.scalar style text) =>
        skip
        anchored anchor (return .scalar tag style text)
      | some .flowSequenceStart =>
        skip
        anchored anchor (return .sequence tag (← flowItems true steps))
      | some .flowMappingStart =>
        skip
        anchored anchor (return .mapping tag (← flowPairs true steps))
      | some .blockSequenceStart =>
        if !block then failure
        skip
        anchored anchor (return .sequence tag (← blockItems steps))
      | some .blockMappingStart =>
        if !block then failure
        skip
        anchored anchor (return .mapping tag (← blockPairs steps))
      | next =>
        if indentless && next == some .blockEntry then
          anchored anchor (return .sequence tag (← indentlessItems steps))
        else if anchor.isSome || tag.isSome then anchored anchor (return .scalar tag .plain "")
        else failure

def nodeUnless (ts : List Token) (block indentless : Bool) : (steps : Nat) → Read Node
  | 0 => failure
  | steps + 1 => do
    if ← isNext ts then return .missing else node block indentless steps

def blockItems : (steps : Nat) → Read (List Node)
  | 0 => failure
  | steps + 1 => do
    if ← skipIf .blockEnd then return []
    if !(← skipIf .blockEntry) then failure
    let item ← nodeUnless [.blockEntry, .blockEnd] true false steps
    return item :: (← blockItems steps)

/-- Reads the items of a block sequence at the column of the mapping around it. -/
def indentlessItems : (steps : Nat) → Read (List Node)
  | 0 => failure
  | steps + 1 => do
    if !(← skipIf .blockEntry) then return []
    let item ← nodeUnless [.blockEntry, .key, .value, .blockEnd] true false steps
    return item :: (← indentlessItems steps)

def blockPairs : (steps : Nat) → Read (List (Node × Node))
  | 0 => failure
  | steps + 1 => do
    if ← skipIf .blockEnd then return []
    if !(← skipIf .key) then failure
    let key ← nodeUnless [.key, .value, .blockEnd] true true steps
    let value ← if ← skipIf .value then nodeUnless [.key, .value, .blockEnd] true true steps
      else pure .missing
    return (key, value) :: (← blockPairs steps)

/-- Reads the items of a flow sequence. A comma comes before every item but the first. -/
def flowItems (first : Bool) : (steps : Nat) → Read (List Node)
  | 0 => failure
  | steps + 1 => do
    if ← skipIf .flowSequenceEnd then return []
    if !first then
      if !(← skipIf .flowEntry) then failure
      if ← skipIf .flowSequenceEnd then return []
    let item ← if ← skipIf .key then flowPair steps else node false false steps
    return item :: (← flowItems false steps)

/-- Reads an item of a flow sequence that is a mapping with one pair. -/
def flowPair : (steps : Nat) → Read Node
  | 0 => failure
  | steps + 1 => do
    let key ← if ← isNext [.value, .flowEntry, .flowSequenceEnd] then do
        skip
        pure .missing
      else node false false steps
    let value ← flowValue .flowSequenceEnd steps
    return .mapping none [(key, value)]

/-- Reads the value of a pair in a flow collection that ends with a token. -/
def flowValue (stop : Token) : (steps : Nat) → Read Node
  | 0 => failure
  | steps + 1 => do
    if ← skipIf .value then nodeUnless [.flowEntry, stop] false false steps else return .missing

/-- Reads the pairs of a flow mapping. A comma comes before every pair but the first. -/
def flowPairs (first : Bool) : (steps : Nat) → Read (List (Node × Node))
  | 0 => failure
  | steps + 1 => do
    if ← skipIf .flowMappingEnd then return []
    if !first then
      if !(← skipIf .flowEntry) then failure
      if ← skipIf .flowMappingEnd then return []
    let pair ← if ← skipIf .key then do
        let key ← nodeUnless [.value, .flowEntry, .flowMappingEnd] false false steps
        pure (key, ← flowValue .flowMappingEnd steps)
      else do
        pure (← node false false steps, .missing)
    return pair :: (← flowPairs false steps)

end

/-! ### Documents -/

/-- What tag handles stand for without any directive. -/
def defaultHandles : List (String × Tag) := [("!", .ofString "!"), ("!!", .core "")]

/-- The handles that directives declare. There may be one version, and every handle is declared once. -/
def handlesOf : (versions : Nat) → List (String × Tag) → List Directive →
    Option (List (String × Tag))
  | _, handles, [] => some handles
  | versions, handles, .version major minor :: ds =>
    if versions = 0 ∧ major = 1 ∧ (minor = 1 ∨ minor = 2) then handlesOf 1 handles ds else none
  | versions, handles, .tagHandle handle start :: ds =>
    if (handles.lookup handle).isSome then none
    else handlesOf versions ((handle, start) :: handles) ds

def directives : List Token → List Directive
  | .directive d :: ts => d :: directives ts
  | _ => []

/-- Starts a document with its own anchors and handles. -/
def startDocument (ds : List Directive) : Read Unit := do
  let handles ← handlesOf 0 [] ds
  modify fun r => { tokens := r.tokens, handles := handles ++ defaultHandles }

def finishDocument (root : Node) : Read Document := do
  let r ← get
  let target (start : Nat × Nat) := (r.nodes.lookup start.2).map fun n => (start.1, n)
  return ⟨root, r.starts.filterMap target⟩

/-- Whether the next token belongs to no document. -/
def atBoundary : Read Bool := do
  match ← peek with
  | none => return true
  | some (.directive _) => return true
  | some t => return t == .documentStart || t == .documentEnd

/-- How many steps the tokens that are left can take. -/
def steps : Read Nat := return 4 * (← get).tokens.length + 4

/-- Reads a document with a marker at its start. -/
def markedDocument : Read Document := do
  let ds := directives (← get).tokens
  startDocument ds
  modify fun r => { r with tokens := r.tokens.drop ds.length }
  if !(← skipIf .documentStart) then failure
  finishDocument (← if ← atBoundary then pure .missing else node true false (← steps))

/-- Reads the first document, which needs no marker. -/
def firstDocument : Read Document := do
  if (← atBoundary) && (← peek) != some .documentEnd then markedDocument
  else do
    startDocument []
    finishDocument (← node true false (← steps))

/-- Reads the further documents, at most `count` of them. -/
def moreDocuments : (count : Nat) → Read (List Document)
  | 0 => return []
  | count + 1 => do
    modify fun r => { r with tokens := r.tokens.dropWhile (· == .documentEnd) }
    match ← peek with
    | none => return []
    | some _ => return (← markedDocument) :: (← moreDocuments count)

def documents : Read (List Document) := do
  match ← peek with
  | none => return []
  | some _ =>
    let first ← firstDocument
    return first :: (← moreDocuments ((← get).tokens.length + 1))

end Read

def documents? (text : String) : Option (List Document) := do
  let tokens ← tokens? text
  let (documents, _) ← Read.documents.run { tokens }
  return documents

/-! ### Following aliases

What an alias stands for is looked up when it is met, and what it leads to may hold aliases again, even
of a node around it. So following them is bounded: for every part that a document is written with, a
hundred aliases may be followed. Those in parts that nobody asks for do not count. -/

/-- A reading of a document that keeps count of how many aliases may still be followed. -/
abbrev Follow := StateT Nat Option

namespace Document

def aliasLimit (d : Document) : Nat := 100 * d.root.parts

/-- The node that an alias leads to. Any other node is what it is. -/
def follow (d : Document) : Node → Follow Node
  | .reference number => do
    match ← get with
    | 0 => failure
    | left + 1 =>
      set left
      d.targets.lookup number
  | n => return n

def run (d : Document) (read : Follow α) : Option α := read.run' d.aliasLimit

end Document

end TemplateLint.Yaml
