import ServiceStubs.Yaml.Layout

/-!
# YAML documents

A document is a tree of scalars, sequences and mappings, in which an alias stands for a node
with an anchor.  Anchors are numbered by how many distinct names came before; an alias has the
number that its name got last, and means the last node of that number.
-/

namespace ServiceStubs.Yaml

/-- A node of a document. -/
inductive Node where
  | scalar (anchor : Option Nat) (tag : Option String) (isPlain : Bool) (text : String)
  | sequence (anchor : Option Nat) (items : List Node)
  | mapping (anchor : Option Nat) (entries : List (Node × Node))
  | reference (number : Nat)
  deriving Inhabited

namespace Node

/-- The scalar that a missing node stands for. -/
def missing : Node := .scalar none none true ""

/-- A node with its number, if it has an anchor. -/
def numbered (anchor : Option Nat) (n : Node) : List (Nat × Node) :=
  match anchor with
  | some k => [(k, n)]
  | none => []

mutual

/-- The nodes with anchors in a node, each before those inside it. -/
def anchored : Node → List (Nat × Node)
  | scalar a t p s => numbered a (scalar a t p s)
  | sequence a items => numbered a (sequence a items) ++ anchoredItems items
  | mapping a entries => numbered a (mapping a entries) ++ anchoredEntries entries
  | reference _ => []

/-- The nodes with anchors in a list. -/
def anchoredItems : List Node → List (Nat × Node)
  | [] => []
  | n :: ns => anchored n ++ anchoredItems ns

/-- The nodes with anchors in a list of entries. -/
def anchoredEntries : List (Node × Node) → List (Nat × Node)
  | [] => []
  | (k, v) :: es => anchored k ++ anchored v ++ anchoredEntries es

end

end Node

/-! ## Putting nodes together -/

/-- What is left of the tokens, and the number of each name of an anchor. -/
structure Pending where
  tokens : List Token
  anchors : List (String × Nat)

/-- A step in putting nodes together. -/
abbrev Assembly (α : Type) := StateT Pending Option α

namespace Assembly

/-- The next token; there is none at the end. -/
def peek : Assembly (Option Token) := fun p => some (p.tokens.head?, p)

/-- Passes a token. -/
def skip : Assembly Unit := fun p => some ((), { p with tokens := p.tokens.drop 1 })

/-- Passes a token if it is next, and says whether it was. -/
def skip? (t : Token) : Assembly Bool := do
  if (← peek) = some t then
    skip
    return true
  else return false

/-- Passes a token that has to be next. -/
def expect (t : Token) : Assembly Unit := do
  if ← skip? t then pure () else failure

/-- Whether one of some tokens is next. -/
def isNext (ts : List Token) : Assembly Bool := do
  match ← peek with
  | some t => return ts.contains t
  | none => return false

/-- Numbers a name of an anchor. -/
def number (name : String) : Assembly Nat := fun p =>
  let n := p.anchors.length
  let others := p.anchors.filter (·.1 != name)
  some (n, { p with anchors := (name, n) :: others })

/-- The alias of a name. -/
def referenceOf (name : String) : Assembly Node := fun p =>
  (p.anchors.lookup name).map fun n => (.reference n, p)

/-- A node, which is missing where one of some tokens follows. -/
def nodeBefore (ts : List Token) (child : Assembly Node) : Assembly Node := do
  if ← isNext ts then return .missing else child

/-! ### Block collections -/

/-- The items of a block sequence, up to its end. -/
def blockItems (child : Assembly Node) : Nat → Assembly (List Node)
  | 0 => failure
  | n + 1 => do
    if ← skip? .blockEntry then
      let item ← nodeBefore [.blockEntry, .blockEnd] child
      return item :: (← blockItems child n)
    else
      expect .blockEnd
      return []

/-- The items of a sequence that is not indented more than its key. -/
def indentlessItems (child : Assembly Node) : Nat → Assembly (List Node)
  | 0 => failure
  | n + 1 => do
    if ← skip? .blockEntry then
      let item ← nodeBefore [.blockEntry, .key, .value, .blockEnd] child
      return item :: (← indentlessItems child n)
    else return []

/-- The value of an entry, if there is one, in a collection where some tokens end an entry. -/
def entryValue (ends : List Token) (child : Assembly Node) : Assembly Node := do
  if ← skip? .value then nodeBefore ends child else return .missing

/-- The entries of a block mapping, up to its end. -/
def blockEntries (child : Assembly Node) : Nat → Assembly (List (Node × Node))
  | 0 => failure
  | n + 1 => do
    if ← skip? .blockEnd then return []
    else
      let ends := [.key, .value, .blockEnd]
      expect .key
      let key ← nodeBefore ends child
      let value ← entryValue ends child
      return (key, value) :: (← blockEntries child n)

/-! ### Flow collections -/

/-- A pair that stands for a mapping with one entry. -/
def flowPair (child : Assembly Node) : Assembly Node := do
  let key ← (do
    if ← isNext [.value, .flowEntry, .flowSequenceEnd] then
      skip
      return .missing
    else child)
  let value ← entryValue [.flowEntry, .flowSequenceEnd] child
  return .mapping none [(key, value)]

/-- The items of a flow sequence, up to its end. -/
def flowItems (child : Assembly Node) : Nat → Bool → Assembly (List Node)
  | 0, _ => failure
  | n + 1, isFirst => do
    if ← skip? .flowSequenceEnd then return []
    else
      if !isFirst then expect .flowEntry
      if ← skip? .key then
        let item ← flowPair child
        return item :: (← flowItems child n false)
      else if ← skip? .flowSequenceEnd then return []
      else
        let item ← child
        return item :: (← flowItems child n false)

/-- The entries of a flow mapping, up to its end. -/
def flowEntries (child : Assembly Node) : Nat → Bool → Assembly (List (Node × Node))
  | 0, _ => failure
  | n + 1, isFirst => do
    if ← skip? .flowMappingEnd then return []
    else
      if !isFirst then expect .flowEntry
      let ends := [.flowEntry, .flowMappingEnd]
      if ← skip? .key then
        let key ← nodeBefore (.value :: ends) child
        let value ← entryValue ends child
        return (key, value) :: (← flowEntries child n false)
      else if ← skip? .flowMappingEnd then return []
      else
        let key ← child
        return (key, .missing) :: (← flowEntries child n false)

/-! ### Nodes -/

/-- What handles of tags stand for unless a directive says otherwise. -/
def defaultHandles : List (String × String) :=
  [("!", "!"), ("!!", "tag:yaml.org,2002:")]

/-- Reads the tag that is next, if there is one. -/
def tag? (handles : List (String × String)) : Assembly (Option String) := do
  match ← peek with
  | some (.tag handle suffix) =>
    skip
    if handle.isEmpty then return some suffix
    else match handles.lookup handle with
      | some expansion => return some (expansion ++ suffix)
      | none => failure
  | _ => return none

/-- Reads the anchor that is next, if there is one. -/
def anchor? : Assembly (Option String) := do
  match ← peek with
  | some (.anchor name) =>
    skip
    return some name
  | _ => return none

/-- Reads an anchor and a tag, in either order. -/
def properties (handles : List (String × String)) : Assembly (Option String × Option String) := do
  let anchor ← anchor?
  let tag ← tag? handles
  match anchor with
  | some _ => return (anchor, tag)
  | none => return (← anchor?, tag)

/-- A node, given how nested ones are read: inside a block or not, and where a sequence need
not be indented. -/
def nodeWith (child : Bool → Bool → Assembly Node) (handles : List (String × String))
    (size : Nat) (inBlock indentless : Bool) : Assembly Node := do
  match ← peek with
  | some (.reference name) =>
    skip
    referenceOf name
  | _ =>
    let (anchor, tag) ← properties handles
    let number ← anchor.mapM number
    match ← peek with
    | some (.scalar text isPlain) =>
      skip
      return .scalar number (if tag = some "!" then none else tag) isPlain text
    | some .flowSequence =>
      skip
      return .sequence number (← flowItems (child false false) size true)
    | some .flowMapping =>
      skip
      return .mapping number (← flowEntries (child false false) size true)
    | t =>
      if indentless && t = some .blockEntry then
        return .sequence number (← indentlessItems (child true false) size)
      else if inBlock && t = some .blockSequence then
        skip
        return .sequence number (← blockItems (child true false) size)
      else if inBlock && t = some .blockMapping then
        skip
        return .mapping number (← blockEntries (child true true) size)
      else if anchor.isSome || tag.isSome then return .scalar number tag true ""
      else failure

/-- A node with others nested in it to a given depth. -/
def node (handles : List (String × String)) (size : Nat) : Nat → Bool → Bool → Assembly Node
  | 0, _, _ => failure
  | depth + 1, inBlock, indentless =>
    nodeWith (node handles size depth) handles size inBlock indentless

/-! ### Documents -/

/-- Reads the directives before a document: what handles of tags stand for in it. -/
def directives : Nat → Bool → List (String × String) → Assembly (List (String × String))
  | 0, _, _ => failure
  | n + 1, versioned, handles => do
    match ← peek with
    | some (.version major minor) =>
      skip
      if versioned || major != 1 || !(minor == 1 || minor == 2) then failure
      else directives n true handles
    | some (.tagHandle handle expansion) =>
      skip
      if (handles.lookup handle).isSome then failure
      else directives n versioned ((handle, expansion) :: handles)
    | _ => return handles ++ defaultHandles

/-- Passes markers of the end of a document. -/
def skipEnds : Nat → Assembly Unit
  | 0 => failure
  | n + 1 => do
    if ← skip? .documentEnd then skipEnds n

/-- Reads the only document of a text, if there is one. -/
def document (size : Nat) : Assembly (Option Node) := do
  match ← peek with
  | none => return none
  | some t =>
    let isExplicit := match t with
      | .version _ _ | .tagHandle _ _ | .documentStart => true
      | _ => false
    let handles ← directives size false []
    if isExplicit then expect .documentStart
    let isEmpty := match ← peek with
      | none => true
      | some (.version _ _) | some (.tagHandle _ _) | some .documentStart
      | some .documentEnd => isExplicit
      | _ => false
    let root ← if isEmpty then pure .missing else node handles size size true false
    skipEnds size
    match ← peek with
    | none => return some root
    | some _ => failure

end Assembly

/-- The root of a text's document, or that it has none.  Texts with several documents are
refused. -/
def root? (text : String) : Option (Option Node) := do
  let tokens ← tokens? text.toList
  let (root, _) ← Assembly.document (2 * tokens.length + 2) ⟨tokens, []⟩
  return root

end ServiceStubs.Yaml
