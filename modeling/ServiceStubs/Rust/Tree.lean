/-!
# Token trees

The tokens of a Rust source text, nested by their brackets.  Punctuation is kept one character
at a time; a character is joined when another punctuation character follows at once.
-/

namespace ServiceStubs.Rust

/-- The three kinds of brackets. -/
inductive Delimiter where
  | parenthesis
  | bracket
  | brace
  deriving DecidableEq, Repr

/-- A token, or a group of token trees between brackets. -/
inductive Tree where
  | ident (name : String)
  | lifetime (name : String)
  | punct (c : Char) (joined : Bool)
  | literal (spelling : String)
  | group (delimiter : Delimiter) (content : List Tree)
  deriving Repr, Inhabited

namespace Tree

mutual

/-- The text of one tree.  Braces keep their content at a distance, the others do not. -/
def text : Tree → String
  | ident name => name
  | lifetime name => name
  | punct c _ => String.singleton c
  | literal spelling => spelling
  | group .parenthesis content => "(" ++ textOf content ++ ")"
  | group .bracket content => "[" ++ textOf content ++ "]"
  | group .brace [] => "\x7b\x7d"
  | group .brace (t :: ts) => "\x7b " ++ textOf (t :: ts) ++ " \x7d"

/-- The text of a sequence: one space between tokens, none after a joined character. -/
def textOf : List Tree → String
  | [] => ""
  | [t] => text t
  | .punct c true :: ts => String.singleton c ++ textOf ts
  | t :: ts => text t ++ " " ++ textOf ts

end

end Tree

end ServiceStubs.Rust
