/-!
# YAML tokens

What a text is cut into before its nodes are put together.  Indentation is turned into tokens
that open and close the block collections.
-/

namespace ServiceStubs.Yaml

/-- A token. -/
inductive Token where
  | version (major minor : Nat)
  /-- What a handle of tags stands for. -/
  | tagHandle (handle expansion : String)
  | documentStart
  | documentEnd
  | blockSequence
  | blockMapping
  | blockEnd
  | flowSequence
  | flowSequenceEnd
  | flowMapping
  | flowMappingEnd
  | blockEntry
  | flowEntry
  | key
  | value
  | reference (name : String)
  | anchor (name : String)
  | tag (handle suffix : String)
  | scalar (text : String) (isPlain : Bool)
  deriving DecidableEq, Repr

end ServiceStubs.Yaml
