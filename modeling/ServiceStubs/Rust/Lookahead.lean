import ServiceStubs.Rust.Literal
import ServiceStubs.Rust.Tree
import ServiceStubs.Rust.Words

/-!
# Looking ahead in token trees

Tests on the beginning of a sequence of trees.  An operator of several characters is there when
all but its last character are joined to the next one; more characters may be joined to it, so
`=` also begins `==`.
-/

namespace ServiceStubs.Rust

namespace Literal

/-- Whether a literal is a number. -/
def isNumber (spelling : String) : Bool :=
  match spelling.toList with
  | c :: _ => c.isDigit
  | [] => false

/-- The value of digits of a base, with underscores among them. -/
def digitsValue? (base : Nat) : List Char → Option Nat
  | [] => none
  | cs => cs.foldlM (fun n c => do
      if c = '_' then return n
      let d ← hexDigit? c
      if d < base then return n * base + d else none) 0

/-- The value of a whole number without a suffix. -/
def index? : List Char → Option Nat
  | '0' :: 'x' :: cs => digitsValue? 16 cs
  | '0' :: 'o' :: cs => digitsValue? 8 cs
  | '0' :: 'b' :: cs => digitsValue? 2 cs
  | cs => digitsValue? 10 cs

/-- The place in a tuple that a number names: places are 32-bit. -/
def place? (cs : List Char) : Option Nat :=
  match index? cs with
  | some n => if n < 4294967296 then some n else none
  | none => none

end Literal

namespace Tree

/-- Whether a word stands first. -/
def startsWord (word : String) : List Tree → Bool
  | .ident name :: _ => name == word
  | _ => false

/-- Whether one of some words stands first. -/
def startsWordOf (words : List String) : List Tree → Bool
  | .ident name :: _ => words.contains name
  | _ => false

/-- Whether an identifier stands first, be it a reserved word. -/
def startsIdent : List Tree → Bool
  | .ident _ :: _ => true
  | _ => false

/-- Whether a plain name stands first. -/
def startsName : List Tree → Bool
  | .ident name :: _ => isName name
  | _ => false

/-- Whether a lifetime stands first. -/
def startsLifetime : List Tree → Bool
  | .lifetime _ :: _ => true
  | _ => false

/-- Whether the characters of an operator stand first. -/
def startsChars : List Char → List Tree → Bool
  | [], _ => true
  | [c], .punct d _ :: _ => c == d
  | c :: cs, .punct d true :: ts => c == d && startsChars cs ts
  | _, _ => false

/-- Whether an operator stands first. -/
def startsPunct (operator : String) (ts : List Tree) : Bool :=
  startsChars operator.toList ts

/-- Whether one of some operators stands first. -/
def startsPunctOf (operators : List String) (ts : List Tree) : Bool :=
  operators.any (startsPunct · ts)

/-- Whether a group stands first. -/
def startsGroup (d : Delimiter) : List Tree → Bool
  | .group e _ :: _ => d == e
  | _ => false

/-- Whether a literal stands first: a token of its own, a truth value, or a negative number. -/
def startsLiteral : List Tree → Bool
  | .literal _ :: _ => true
  | .ident name :: _ => name == "true" || name == "false"
  | .punct '-' _ :: .literal spelling :: _ => Literal.isNumber spelling
  | _ => false

/-- Whether a quoted string, of any spelling, stands first. -/
def startsString : List Tree → Bool
  | .literal spelling :: _ =>
    match spelling.toList with
    | '"' :: _ => true
    | 'r' :: _ => true
    | _ => false
  | _ => false

/-- A colon that is not the first of two. -/
def startsColon (ts : List Tree) : Bool :=
  startsPunct ":" ts && !startsPunct "::" ts

/-- A dot that does not begin a range. -/
def startsDot (ts : List Tree) : Bool :=
  startsPunct "." ts && !startsPunct ".." ts

/-- An exclamation mark that is no part of an inequality. -/
def startsBang (ts : List Tree) : Bool :=
  startsPunct "!" ts && !startsPunct "!=" ts

/-- An equals sign that is not the first character of an arrow. -/
def startsAssign (ts : List Tree) : Bool :=
  startsPunct "=" ts && !startsPunct "=>" ts

/-- How many tokens there are, brackets included. -/
def count : Tree → Nat
  | .group _ content => counts content + 2
  | _ => 1
where
  /-- How many tokens there are in a sequence. -/
  counts : List Tree → Nat
    | [] => 0
    | t :: ts => count t + counts ts

end Tree

end ServiceStubs.Rust
