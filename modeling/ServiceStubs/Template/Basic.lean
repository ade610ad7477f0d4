/-!
# Templates

A template is a sequence of parts: text, values to be spliced, repetitions over a list and
choices on a value.  Values are spliced as they are and never read as template text.
-/

namespace ServiceStubs.Template

/-- What a template can refer to. -/
inductive Data where
  | text (s : String)
  | list (items : List Data)
  | record (fields : List (String × Data))

/-- A part of a template.  A path is a name followed by the names of fields. -/
inductive Part where
  | text (s : String)
  | value (path : List String)
  | each (item : String) (source : List String) (body : List Part)
  | choice (test : List String) (yes no : List Part)

/-- Why a template cannot be rendered. -/
inductive RenderFault where
  | unknown (path : List String)
  | notAList (path : List String)
  deriving DecidableEq, Repr

namespace Data

/-- Looks up a field of a record. -/
def field? : Data → String → Option Data
  | record fields, name => (fields.find? (·.1 == name)).map Prod.snd
  | _, _ => none

/-- Empty texts, lists and records are false. -/
def isTrue : Data → Bool
  | text s => !s.isEmpty
  | list items => !items.isEmpty
  | record fields => !fields.isEmpty

mutual

/-- The text that is spliced for a value. -/
def render : Data → String
  | text s => s
  | list items => "[" ++ renderItems items ++ "]"
  | record _ => "[object]"

/-- The texts of items with commas between them. -/
def renderItems : List Data → String
  | [] => ""
  | [d] => render d
  | d :: ds => render d ++ ", " ++ renderItems ds

end

end Data

/-- The names in reach, innermost first. -/
abbrev Scope := List (String × Data)

/-- Follows a path from the names in reach. -/
def lookup (scope : Scope) : List String → Option Data
  | [] => none
  | name :: fields =>
    fields.foldl (fun d f => d.bind (·.field? f)) ((scope.find? (·.1 == name)).map Prod.snd)

mutual

/-- Renders one part. -/
def Part.render (scope : Scope) : Part → Except RenderFault String
  | .text s => .ok s
  | .value path =>
    match lookup scope path with
    | some d => .ok d.render
    | none => .error (.unknown path)
  | .each item source body =>
    match lookup scope source with
    | some (.list items) =>
      items.foldl (fun done d => do
        let before ← done
        let here ← renderParts ((item, d) :: scope) body
        return before ++ here) (.ok "")
    | some _ => .error (.notAList source)
    | none => .error (.unknown source)
  | .choice test yes no =>
    if ((lookup scope test).map Data.isTrue).getD false then renderParts scope yes
    else renderParts scope no

/-- Renders parts one after another. -/
def renderParts (scope : Scope) : List Part → Except RenderFault String
  | [] => .ok ""
  | part :: rest => do
    let here ← Part.render scope part
    let after ← renderParts scope rest
    return here ++ after

end

/-- Why a template stopped, for a reader. -/
def RenderFault.describe : RenderFault → String
  | .unknown path => "variable '" ++ ".".intercalate path ++ "' is unknown"
  | .notAList path => "'" ++ ".".intercalate path ++ "' is not a list"

end ServiceStubs.Template
