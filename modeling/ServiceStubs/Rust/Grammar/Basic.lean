import ServiceStubs.Declarations.Basic
import ServiceStubs.Rust.Parser
import ServiceStubs.Rust.Ty

/-!
# The shape of the grammar

The phrases of Rust refer to one another.  A `Grammar` holds a parser for each phrase that may
occur inside itself, so that the others can be written one by one on top of it.  `Item` is what
is kept of an item.
-/

namespace ServiceStubs.Rust

/-! ## What is kept of items -/

/-- A function of an implementation. -/
structure Method where
  name : String
  visibility : Visibility
  /-- Whether it is called on a value. -/
  hasReceiver : Bool
  /-- The type after the arrow. -/
  output : Option Ty

/-- An implementation block. -/
structure ImplBlock where
  selfType : Ty
  /-- The last name of the implemented trait. -/
  trait? : Option String
  methods : List Method

/-- An item. -/
inductive Item where
  /-- A structure or an enumeration. -/
  | declared (name : String) (visibility : Visibility)
  | implBlock (block : ImplBlock)
  /-- A module with its content. -/
  | inlineModule (name : String) (items : List Item)
  | other

/-! ## What later parts of a phrase ask of earlier ones -/

/-- A type, and what may go on after it. -/
structure TyPhrase where
  ty : Ty
  /-- A single name, perhaps with arguments: an equation or a constraint may follow it inside
  angle brackets. -/
  isBinding : Bool
  /-- A bound in parentheses may start a sum of bounds. -/
  isBound : Bool

/-- What a generic argument is. -/
inductive ArgPhrase where
  | lifetime
  | ty (t : Ty)
  | other

/-- A path, and what may go on after it. -/
structure PathPhrase where
  /-- Whether it starts from a type in angle brackets. -/
  qualified : Bool
  /-- The last name. -/
  name : String
  /-- The first argument of the last name, if it is a type. -/
  argument : Option Ty
  /-- No name has arguments. -/
  isPlain : Bool
  /-- The last name has arguments. -/
  isApplied : Bool
  /-- A single name, perhaps with arguments in angle brackets. -/
  isBinding : Bool

/-- A path given by its names. -/
def PathPhrase.ofSegments (qualified isSingle : Bool)
    (segments : List (String × Option (List ArgPhrase))) : PathPhrase :=
  match segments.getLast? with
  | none => ⟨qualified, "", none, true, false, false⟩
  | some (name, arguments) =>
    { qualified, name
      argument := match arguments with
        | some (.ty t :: _) => some t
        | _ => none
      isPlain := segments.all fun s => s.2.isNone
      isApplied := match arguments with
        | some (_ :: _) => true
        | _ => false
      isBinding := isSingle }

/-- What kind of bound was read. -/
inductive BoundPhrase where
  | trait
  | lifetime
  | capture
  | constTrait

/-- What an expression is, as far as its surroundings ask. -/
inductive ExprPhrase where
  /-- It ends in its own block, and so ends a statement. -/
  | block
  /-- A call of a macro with braces. -/
  | braceCall
  | range
  | comparison
  | plain
  deriving DecidableEq

/-- The strength with which operators bind, weakest first. -/
inductive Level where
  | jump
  | assign
  | range
  | disjunction
  | conjunction
  | comparison
  | bitOr
  | bitXor
  | bitAnd
  | shift
  | sum
  | product
  | cast
  deriving DecidableEq

/-- The place of a level in the order. -/
def Level.rank : Level → Nat
  | .jump => 0
  | .assign => 1
  | .range => 2
  | .disjunction => 3
  | .conjunction => 4
  | .comparison => 6
  | .bitOr => 7
  | .bitXor => 8
  | .bitAnd => 9
  | .shift => 10
  | .sum => 11
  | .product => 12
  | .cast => 13

/-! ## The knot -/

/-- Parsers of the phrases that occur inside themselves. -/
structure Grammar where
  /-- A type; the flag says whether a sum of bounds may follow without parentheses. -/
  ty : Bool → Parser TyPhrase
  /-- A bound; the flags say whether a capture list and a constant trait are bounds. -/
  bound : Bool → Bool → Parser BoundPhrase
  /-- An alternative-free pattern; gives whether it is a range open at an end. -/
  pattern : Parser Bool
  /-- An expression; the flag says whether a structure literal is one. -/
  expr : Bool → Parser ExprPhrase
  /-- An expression without binary operators. -/
  unary : Bool → Parser ExprPhrase
  /-- Operators of at least the given level, after an expression. -/
  climb : Bool → Level → ExprPhrase → Parser ExprPhrase
  /-- Operators that bind more strongly than the one before, after its right operand. -/
  extend : Bool → Level → ExprPhrase → Parser ExprPhrase
  /-- An arm of a match. -/
  arm : Parser Unit
  /-- The statements of a block, up to its end. -/
  statements : Parser Unit
  item : Parser Item
  /-- A tree of imports. -/
  imports : Bool → Parser Unit

namespace Grammar

/-- The grammar without phrases. -/
def empty : Grammar where
  ty _ := failure
  bound _ _ := failure
  pattern := failure
  expr _ := failure
  unary _ := failure
  climb _ _ _ := failure
  extend _ _ _ := failure
  arm := failure
  statements := failure
  item := failure
  imports _ := failure

end Grammar

end ServiceStubs.Rust
