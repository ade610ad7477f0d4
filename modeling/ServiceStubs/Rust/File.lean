import ServiceStubs.Rust.Grammar.Item
import ServiceStubs.Rust.Lexer

/-!
# Source files

A source file is a sequence of items after attributes of its own.  A mark of byte order and a
first line that names an interpreter are passed.
-/

namespace ServiceStubs.Rust

/-- The grammar whose phrases may be nested to a given depth. -/
def grammar : Nat → Grammar
  | 0 => .empty
  | n + 1 =>
    let g := grammar n
    { ty := g.typePhrase
      bound := g.boundPhrase
      pattern := g.singlePattern
      expr := g.expression
      unary := g.unaryExpr
      climb := g.climbing
      extend := g.extending
      arm := g.matchArm
      statements := g.blockContent
      item := g.itemPhrase
      imports := g.importTree }

/-- The items of a file. -/
def Grammar.file (g : Grammar) : Parser (List Item) := do
  g.innerAttributes
  Parser.untilEnd g.item

/-- Drops a mark of byte order. -/
def dropMark : List Char → List Char
  | '\ufeff' :: s => s
  | s => s

/-- Drops the first line if it names an interpreter.  It does unless it starts an attribute. -/
def dropInterpreter (s : List Char) : List Char :=
  match s with
  | '#' :: '!' :: r =>
    match Token.skipGaps (r.length + 1) r with
    | '[' :: _ => s
    | _ => s.dropWhile (· != '\n')
  | s => s

/-- The items of a source text, if it is well-formed.  Each phrase takes at least one token in
every few levels of nesting. -/
def items? (text : String) : Option (List Item) := do
  let tokens ← tokens? (dropMark (dropInterpreter (dropMark text.toList)))
  let trees ← Token.nest [] [] tokens
  let depth := 4 * tokens.length + 16
  match (grammar depth).file ⟨trees, []⟩ with
  | some (items, ⟨[], _⟩) => some items
  | _ => none

end ServiceStubs.Rust
