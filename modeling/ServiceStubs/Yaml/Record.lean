import ServiceStubs.Yaml.Node

/-!
# Reading values from YAML

Any scalar is a string, whatever it looks like.  A plain scalar that is empty or a word for null
is null where null is allowed.  Records are mappings; unknown keys are passed over, and a known
key may come once.
-/

namespace ServiceStubs.Yaml

/-- A way to read a value from a node, given the numbered nodes of the document. -/
abbrev NodeReader (α : Type) := List (Nat × Node) → Node → Option α

/-- The node that an alias means: the last of its number.  Other nodes mean themselves. -/
def Node.target (numbered : List (Nat × Node)) : Node → Option Node
  | .reference n => numbered.reverse.lookup n
  | node => some node

/-- Reads a string. -/
def readString : NodeReader String := fun numbered node => do
  match ← node.target numbered with
  | .scalar _ _ _ text => some text
  | _ => none

/-- The words for null. -/
def nullWords : List String := ["~", "null", "Null", "NULL"]

/-- The tag of null. -/
def nullTag : String := "tag:yaml.org,2002:null"

/-- Whether a node is null.  With the tag of null, it has to be a word for it. -/
def isNull : Node → Option Bool
  | .scalar _ none true text => some (text.isEmpty || nullWords.contains text)
  | .scalar _ (some tag) true text =>
    if tag = nullTag then if nullWords.contains text then some true else none else some false
  | _ => some false

/-- Reads a value that may be null. -/
def readOrEmpty {α : Type} [Inhabited α] (read : NodeReader α) : NodeReader α :=
  fun numbered node => do
    let node ← node.target numbered
    if ← isNull node then some default else read numbered node

/-- Reads a list.  An empty plain scalar is an empty one. -/
def readList {α : Type} (read : NodeReader α) : NodeReader (List α) := fun numbered node => do
  match ← node.target numbered with
  | .sequence _ items => items.mapM (read numbered)
  | .scalar _ _ true "" => some []
  | _ => none

/-- A field of a record. -/
structure Field (σ : Type) where
  name : String
  isRequired : Bool
  /-- Reads the value and puts it into the record. -/
  put : NodeReader (σ → σ)

/-- A field given by how its value is read and where it is put. -/
def Field.of {σ α : Type} (name : String) (isRequired : Bool) (read : NodeReader α)
    (put : α → σ → σ) : Field σ :=
  ⟨name, isRequired, fun numbered node => (read numbered node).map put⟩

/-- Reads the entries of a mapping into a record; the names already met are given. -/
def readEntries {σ : Type} (fields : List (Field σ)) (numbered : List (Nat × Node)) :
    List String → σ → List (Node × Node) → Option σ
  | met, record, [] =>
    if fields.all fun f => !f.isRequired || met.contains f.name then some record else none
  | met, record, (key, value) :: rest => do
    let name ← readString numbered key
    match fields.find? (·.name == name) with
    | none => readEntries fields numbered met record rest
    | some f =>
      if met.contains name then none
      else
        let put ← f.put numbered value
        readEntries fields numbered (name :: met) (put record) rest

/-- Reads a record. -/
def readRecord {σ : Type} (fields : List (Field σ)) (blank : σ) : NodeReader σ :=
  fun numbered node => do
    match ← node.target numbered with
    | .mapping _ entries => readEntries fields numbered [] blank entries
    | _ => none

/-- Reads a list that is the whole of a text.  A text without a document is an empty list. -/
def readListText {α : Type} (read : NodeReader α) (text : String) : Option (List α) := do
  match ← root? text with
  | none => some []
  | some root => readList read root.anchored root

end ServiceStubs.Yaml
