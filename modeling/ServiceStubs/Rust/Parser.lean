import ServiceStubs.Rust.Lookahead

/-!
# Parsers of token trees

A parser takes trees from the front of its input, or fails.  It also keeps what it has passed,
in the form in which it is printed: operators are joined inside and end unjoined, and a parser
may print other trees than it takes.  An alternative that fails leaves no trace.
-/

namespace ServiceStubs.Rust

/-- What a parser has ahead and what it has passed. -/
structure Input where
  /-- The trees ahead. -/
  rest : List Tree
  /-- The trees passed, newest first, as they are printed. -/
  passed : List Tree

/-- A parser of token trees. -/
abbrev Parser (α : Type) := StateT Input Option α

namespace Parser

variable {α β : Type}

/-! ## Looking ahead -/

/-- The trees ahead. -/
def ahead : Parser (List Tree) := fun i => some (i.rest, i)

/-- Applies a test to the trees ahead. -/
def peek (test : List Tree → Bool) : Parser Bool := fun i => some (test i.rest, i)

/-- Whether nothing is left. -/
def atEnd : Parser Bool := peek List.isEmpty

/-- Goes on if the trees ahead pass a test. -/
def require (test : List Tree → Bool) : Parser Unit := fun i =>
  if test i.rest then some ((), i) else none

/-- Requires that nothing is left. -/
def finish : Parser Unit := require List.isEmpty

/-! ## Single tokens -/

/-- Takes the next tree, if it passes a test. -/
def take (test : List Tree → Bool) : Parser Unit := fun i =>
  match i.rest with
  | t :: ts => if test i.rest then some ((), ⟨ts, t :: i.passed⟩) else none
  | [] => none

/-- Takes a word. -/
def word (w : String) : Parser Unit := take (Tree.startsWord w)

/-- Takes an identifier that passes a test. -/
def identWhere (test : String → Bool) : Parser String := fun i =>
  match i.rest with
  | .ident name :: ts => if test name then some (name, ⟨ts, .ident name :: i.passed⟩) else none
  | _ => none

/-- Takes a plain name. -/
def name : Parser String := identWhere isName

/-- Takes an identifier, be it a reserved word. -/
def anyIdent : Parser String := identWhere fun _ => true

/-- Takes a plain name, or one of some reserved words. -/
def nameOr (words : List String) : Parser String :=
  identWhere fun w => isName w || words.contains w

/-- Takes a lifetime. -/
def lifetime : Parser Unit := take Tree.startsLifetime

/-- Prints an operator. -/
def printed : List Char → List Tree → List Tree
  | [], passed => passed
  | [c], passed => .punct c false :: passed
  | c :: cs, passed => printed cs (.punct c true :: passed)

/-- Takes an operator. -/
def punct (operator : String) : Parser Unit := fun i =>
  if Tree.startsPunct operator i.rest then
    some ((), ⟨i.rest.drop operator.toList.length, printed operator.toList i.passed⟩)
  else none

/-- Takes a literal. -/
def literal : Parser Unit := fun i =>
  match i.rest with
  | .punct '-' _ :: .literal s :: ts =>
    if Literal.isNumber s then some ((), ⟨ts, .literal s :: .punct '-' false :: i.passed⟩)
    else none
  | t :: ts => if Tree.startsLiteral i.rest then some ((), ⟨ts, t :: i.passed⟩) else none
  | [] => none

/-- Takes a quoted string. -/
def string : Parser Unit := take Tree.startsString

/-- Takes a group with any content. -/
def rawGroup : Parser Delimiter := fun i =>
  match i.rest with
  | .group d content :: ts => some (d, ⟨ts, .group d content :: i.passed⟩)
  | _ => none

/-! ## Combinations -/

/-- Takes a group whose whole content is read by a parser. -/
def inGroup (d : Delimiter) (p : Parser α) : Parser α := fun i =>
  match i.rest with
  | .group e content :: ts =>
    if d = e then
      match p ⟨content, []⟩ with
      | some (a, ⟨[], passed⟩) => some (a, ⟨ts, .group d passed.reverse :: i.passed⟩)
      | _ => none
    else none
  | _ => none

/-- Takes a word if it is there, and says whether it was. -/
def word? (w : String) : Parser Bool := do
  if ← peek (Tree.startsWord w) then
    word w
    return true
  else return false

/-- Takes an operator if it is there, and says whether it was. -/
def punct? (operator : String) : Parser Bool := do
  if ← peek (Tree.startsPunct operator) then
    punct operator
    return true
  else return false

/-- Takes a lifetime if there is one. -/
def lifetime? : Parser Unit := do
  if ← peek Tree.startsLifetime then lifetime

/-- Runs a parser where a test on the trees ahead succeeds. -/
def whenAhead (test : List Tree → Bool) (p : Parser Unit) : Parser Unit := do
  if ← peek test then p

/-- Tries a parser; without success the input is as before. -/
def attempt (p : Parser α) : Parser (Option α) := fun i =>
  match p i with
  | some (a, j) => some (some a, j)
  | none => some (none, i)

/-- What a parser would give here; nothing is taken. -/
def foresee (p : Parser α) : Parser (Option α) := fun i =>
  some ((p i).map Prod.fst, i)

/-- Takes trees without printing them. -/
def unprinted (p : Parser α) : Parser α := fun i =>
  (p i).map fun (a, j) => (a, ⟨j.rest, i.passed⟩)

/-- Prints the trees taken as they were. -/
def verbatim (p : Parser α) : Parser α := fun i =>
  (p i).map fun (a, j) =>
    (a, ⟨j.rest, (i.rest.take (i.rest.length - j.rest.length)).reverse ++ i.passed⟩)

/-- Gives also what a parser printed, oldest first. -/
def recorded (p : Parser α) : Parser (α × List Tree) := fun i =>
  (p ⟨i.rest, []⟩).map fun (a, j) => ((a, j.passed.reverse), ⟨j.rest, j.passed ++ i.passed⟩)

/-- Repeats a parser while a test succeeds, as often as the first argument allows. -/
def whileFuel (test : List Tree → Bool) (p : Parser α) : Nat → Parser (List α)
  | 0 => do
    require fun ts => !test ts
    return []
  | n + 1 => do
    if ← peek test then
      let a ← p
      let as ← whileFuel test p n
      return a :: as
    else return []

/-- Repeats a parser while a test succeeds.  Each round has to take something. -/
def whileAhead (test : List Tree → Bool) (p : Parser α) : Parser (List α) := do
  let ts ← ahead
  whileFuel test p ts.length

/-- Repeats a parser until nothing is left. -/
def untilEnd (p : Parser α) : Parser (List α) := whileAhead (!·.isEmpty) p

/-- Elements with separators between them, up to where a test succeeds.  A separator may stand
after the last element. -/
def separatedFuel (stop : List Tree → Bool) (separator : String) (p : Parser α) :
    Nat → Parser (List α)
  | 0 => do
    require stop
    return []
  | n + 1 => do
    if ← peek stop then return []
    else
      let a ← p
      if ← peek stop then return [a]
      else
        punct separator
        let as ← separatedFuel stop separator p n
        return a :: as

/-- Elements with separators between them and perhaps after them, up to where a test
succeeds. -/
def separatedUntil (stop : List Tree → Bool) (separator : String) (p : Parser α) :
    Parser (List α) := do
  let ts ← ahead
  separatedFuel stop separator p (ts.length + 1)

/-- Elements with commas between them and perhaps after them, up to the end. -/
def commaSeparated (p : Parser α) : Parser (List α) := separatedUntil List.isEmpty "," p

/-- Elements joined by a separator, up to where a test succeeds or no separator follows. -/
def joinedFuel (stop : List Tree → Bool) (separator : String) (p : Parser α) :
    Nat → Parser (List α)
  | 0 => do
    require stop
    return []
  | n + 1 => do
    if ← peek stop then return []
    else
      let a ← p
      if ← punct? separator then
        let as ← joinedFuel stop separator p n
        return a :: as
      else return [a]

/-- Elements joined by a separator, up to where a test succeeds or no separator follows. -/
def joinedUntil (stop : List Tree → Bool) (separator : String) (p : Parser α) :
    Parser (List α) := do
  let ts ← ahead
  joinedFuel stop separator p (ts.length + 1)

end Parser

end ServiceStubs.Rust
