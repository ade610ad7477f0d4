import ServiceStubs.Text.Letter

/-!
# Naming rules

Names come from foreign declarations and end up as identifiers of generated code.  This
module holds the rules between: what counts as an identifier, the snake-case form of a name,
the handler name of an operation, and the short name of a host module.
-/

namespace ServiceStubs.Naming

open ServiceStubs.Text.Letter

/-- Suffix of every generated unit. -/
def generatedSuffix : String := ".generated.rs"

/-- The words that are no plain identifiers of generated code, strict and reserved. -/
def keywords : List String :=
  ["as", "async", "await", "break", "const", "continue", "crate", "dyn", "else", "enum",
   "extern", "false", "fn", "for", "gen", "if", "impl", "in", "let", "loop", "match", "mod",
   "move", "mut", "pub", "ref", "return", "self", "Self", "static", "struct", "super", "trait",
   "true", "try", "type", "unsafe", "use", "where", "while", "abstract", "become", "box", "do",
   "final", "macro", "override", "priv", "typeof", "unsized", "virtual", "yield"]

/-- Whether a name is one of the keywords. -/
def isKeyword (name : String) : Bool :=
  keywords.contains name

/-- A character that may start an ASCII identifier. -/
def isIdentifierStart (c : Char) : Bool :=
  c.isAlpha || c == '_'

/-- A character that may continue an ASCII identifier. -/
def isIdentifierPart (c : Char) : Bool :=
  c.isAlphanum || c == '_'

/-- Whether a name is an ASCII identifier: letters, digits and underscores, no digit first, and
not the underscore alone. -/
def isIdentifier (name : String) : Bool :=
  match name.toList with
  | [] => false
  | ['_'] => false
  | c :: rest => isIdentifierStart c && rest.all isIdentifierPart

/-! ## Snake case -/

/-- What is written so far, newest character first, and whether a capital that comes next
starts a new word. -/
structure Snake where
  written : List Char
  afterSmall : Bool

namespace Snake

/-- A capital starts a word after a small letter or digit; the three separators write one
underscore inside the text; other characters that are no letters are dropped. -/
def step (s : Snake) (c : Char) : Snake :=
  if isUppercase c then
    let start := if s.afterSmall then '_' :: s.written else s.written
    ⟨(lowercase c).reverse ++ start, false⟩
  else if isAlphanumeric c then
    ⟨c :: s.written, isLowercase c || c.isDigit⟩
  else if c == '-' || c == '_' || c == ' ' then
    match s.written with
    | [] => ⟨[], false⟩
    | d :: rest => ⟨if d == '_' then d :: rest else '_' :: d :: rest, false⟩
  else s

/-- Removes the underscores at both ends and restores reading order. -/
def finish (s : Snake) : List Char :=
  (s.written.dropWhile (· == '_')).reverse.dropWhile (· == '_')

end Snake

/-- The snake-case form of a name written in any of the usual ways. -/
def snakeCase (name : String) : String :=
  String.ofList (name.toList.foldl Snake.step ⟨[], false⟩).finish

/-! ## Names of generated things -/

/-- The handler name of an operation before clashes are resolved: its snake-case form, led by
`op_` when that is empty or starts with a digit, followed by `_` when it is a keyword. -/
def handlerName (operation : String) : String :=
  let name := snakeCase operation
  match name.toList with
  | [] => "op_" ++ name
  | c :: _ =>
    if c.isDigit then "op_" ++ name
    else if isKeyword name then name ++ "_"
    else name

/-- The pieces of a text, or of any other row, between separators. -/
def splitAtAny {α : Type} (isSeparator : α → Bool) : List α → List (List α)
  | [] => [[]]
  | c :: rest =>
    match splitAtAny isSeparator rest with
    | piece :: pieces =>
      if isSeparator c then [] :: piece :: pieces else (c :: piece) :: pieces
    | [] => [[]]

/-- The first non-empty segment of a host module name such as `acme_app.dll` or
`acme_app::services`; a name of separators alone stays whole. -/
def primarySegment (moduleName : String) : String :=
  match (splitAtAny (fun c => c == '.' || c == ':') moduleName.toList).find? (!·.isEmpty) with
  | some segment => String.ofList segment
  | none => moduleName

/-- The unit that carries the service model of a host module. -/
def modelUnitName (moduleName : String) : String :=
  primarySegment moduleName ++ generatedSuffix

end ServiceStubs.Naming
