import ServiceStubs.Rust.Tree

/-!
# Types of Rust

Of a type, only what a reader of declarations asks for is kept apart: a path with its last name
and the type that the name is applied to first.  All other types are kept as their tokens.
-/

namespace ServiceStubs.Rust

/-- A type. -/
inductive Ty where
  /-- A path, given by its last name.  It is qualified when it starts from another type. -/
  | path (qualified : Bool) (name : String)
  /-- A path whose last name has a type as its first argument. -/
  | applied (qualified : Bool) (name : String) (argument : Ty)
  | reference (target : Ty)
  | paren (inner : Ty)
  | unit
  | other (tokens : List Tree)
  deriving Inhabited

end ServiceStubs.Rust
