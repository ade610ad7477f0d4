import ServiceStubs.Rust.Grammar.Basic

/-!
# Attributes and paths

An attribute holds a path, which arguments or a value may follow.  A path is a sequence of names;
in types, arguments in angle brackets follow a name at once, in expressions two colons stand
before them.  Lifetimes are printed before the other arguments.
-/

namespace ServiceStubs.Rust

namespace Parser

/-- The newest printed tree. -/
def newest : Parser (Option Tree) := fun i => some (i.passed.head?, i)

/-- Prints trees. -/
def print (ts : List Tree) : Parser Unit := fun i => some ((), ⟨i.rest, ts.reverse ++ i.passed⟩)

end Parser

namespace Grammar

open ServiceStubs.Rust.Parser ServiceStubs.Rust.Tree

/-! ## Attributes -/

/-- Reserved words that name a place in the tree of modules. -/
def placeWords : List String := ["super", "self", "Self", "crate"]

/-- A path of names without arguments. -/
def plainPath : Parser Unit := do
  let _ ← punct? "::"
  let _ ← joinedUntil (fun _ => false) "::" (nameOr placeWords)

variable (g : Grammar)

/-- The content of an attribute. -/
def attributeContent : Parser Unit := do
  if ← word? "unsafe" then pure () else plainPath
  let ts ← ahead
  match ts with
  | .group _ _ :: _ =>
    let _ ← rawGroup
  | _ =>
    if startsAssign ts && !startsPunct "==" ts then
      punct "="
      require fun ts => !(startsPunct "#" ts && startsGroup .bracket (ts.drop 1))
      let _ ← g.expr true

/-- An attribute of what follows. -/
def outerAttribute : Parser Unit := do
  punct "#"
  inGroup .bracket g.attributeContent

/-- Attributes of what follows. -/
def outerAttributes : Parser Unit := do
  let _ ← whileAhead (startsPunct "#") g.outerAttribute

/-- An attribute of what it stands in. -/
def innerAttribute : Parser Unit := do
  punct "#"
  punct "!"
  inGroup .bracket g.attributeContent

/-- Attributes of what they stand in. -/
def innerAttributes : Parser Unit := do
  let _ ← whileAhead (fun ts => startsPunct "#" ts && startsPunct "!" (ts.drop 1))
    g.innerAttribute

/-! ## Blocks -/

/-- A block whose attributes stand before it. -/
def block : Parser Unit := inGroup .brace g.statements

/-- A block that may start with its own attributes. -/
def body : Parser Unit := inGroup .brace do
  g.innerAttributes
  g.statements

/-! ## Generic arguments -/

/-- A value among generic arguments: a literal, a name or a block. -/
def constArgument : Parser Unit := do
  let ts ← ahead
  if startsLiteral ts then literal
  else if startsName ts then
    let _ ← name
  else g.body

/-- A value or a type, after an equals sign among generic arguments. -/
def equated : Parser Unit := do
  let ts ← ahead
  if startsLiteral ts || startsGroup .brace ts then g.constArgument
  else
    let _ ← g.ty true

/-- A generic argument. -/
def argument : Parser ArgPhrase := do
  let ts ← ahead
  if startsLifetime ts && !startsPunct "+" (ts.drop 1) then
    lifetime
    return .lifetime
  else if startsLiteral ts || startsGroup .brace ts then
    g.constArgument
    return .other
  else
    let t ← g.ty true
    if t.isBinding then
      if ← punct? "=" then
        g.equated
        return .other
      else if ← punct? ":" then
        let _ ← joinedUntil (startsPunctOf [",", ">"]) "+" (g.bound false true)
        return .other
      else return .ty t.ty
    else return .ty t.ty

/-- The printed form of generic arguments: lifetimes first. -/
def printedArguments (arguments : List (ArgPhrase × List Tree)) (trailing : Bool) : List Tree :=
  let isLifetime : ArgPhrase × List Tree → Bool := fun a => match a.1 with
    | .lifetime => true
    | _ => false
  let sorted := arguments.filter isLifetime ++ arguments.filter (!isLifetime ·)
  let comma : Tree := .punct ',' false
  (sorted.map Prod.snd).intersperse [comma] |>.flatten
    |> (· ++ if trailing then [comma] else [])

/-- Generic arguments between angle brackets. -/
def arguments : Parser (List ArgPhrase) := do
  punct "<"
  let (list, last) ← unprinted do
    let list ← separatedUntil (startsPunct ">") "," (recorded g.argument)
    return (list, ← newest)
  let trailing := match last with
    | some (.punct ',' _) => true
    | _ => false
  print (printedArguments list (trailing && !list.isEmpty))
  punct ">"
  return list.map Prod.fst

/-! ## Paths -/

/-- A name of a path, with its generic arguments if it has any. -/
def segment (inExpr : Bool) : Parser (String × Option (List ArgPhrase)) := do
  let ts ← ahead
  if startsWordOf ["super", "self", "crate", "try"] ts then
    return (← anyIdent, none)
  else
    let name ← nameOr ["Self"]
    let ts ← ahead
    if !inExpr && startsPunct "<" ts && !startsPunct "<=" ts
        || startsPunct "::" ts && startsPunct "<" (ts.drop 2) then
      let _ ← punct? "::"
      return (name, some (← g.arguments))
    else return (name, none)

/-- Two colons that go on to a further name. -/
def startsStep (ts : List Tree) : Bool :=
  startsPunct "::" ts && !startsGroup .parenthesis (ts.drop 2)

/-- Further names of a path. -/
def steps (inExpr : Bool) : Parser (List (String × Option (List ArgPhrase))) :=
  whileAhead startsStep do
    punct "::"
    g.segment inExpr

/-- A path that starts with a name. -/
def path (inExpr : Bool) : Parser PathPhrase := do
  let leading ← punct? "::"
  let first ← g.segment inExpr
  let further ← g.steps inExpr
  return PathPhrase.ofSegments false (!leading && further.isEmpty) (first :: further)

/-- A path that may start from a type in angle brackets. -/
def qualifiedPath (inExpr : Bool) : Parser PathPhrase := do
  if ← punct? "<" then
    let _ ← g.ty true
    if ← word? "as" then
      let _ ← g.path false
    punct ">"
    punct "::"
    let first ← g.segment inExpr
    let further ← whileAhead (startsPunct "::") do
      punct "::"
      g.segment inExpr
    return PathPhrase.ofSegments true false (first :: further)
  else g.path inExpr

/-! ## Function arguments of paths -/

/-- The type after an arrow, if there is one. -/
def output (allowSum : Bool) : Parser (Option Ty) := do
  if ← punct? "->" then return some (← g.ty allowSum).ty else return none

/-- Whether function arguments stand next, perhaps after two colons. -/
def startsCall (ts : List Tree) : Bool :=
  startsGroup .parenthesis ts || startsPunct "::" ts && startsGroup .parenthesis (ts.drop 2)

/-- The argument types of a function trait in parentheses, and its output. -/
def callArguments : Parser (Option Ty) := do
  let _ ← unprinted (punct? "::")
  let _ ← inGroup .parenthesis (commaSeparated (g.ty true))
  g.output false

/-- Takes function arguments of a path, and further names after them. -/
def applyCalls : Nat → PathPhrase → Parser PathPhrase
  | 0, p => return p
  | n + 1, p => do
    if !p.isApplied && startsCall (← ahead) then
      let out ← g.callArguments
      let called :=
        { p with argument := none, isPlain := false, isApplied := true, isBinding := false }
      let mayGoOn := match out with
        | none => true
        | some (.paren _) => true
        | _ => false
      if mayGoOn then
        match ← g.steps false with
        | [] => return called
        | further =>
          let last := PathPhrase.ofSegments p.qualified false further
          applyCalls n { last with isPlain := false }
      else return called
    else return p

/-- The path of a type. -/
def tyPath : Parser PathPhrase := do
  let p ← g.qualifiedPath false
  g.applyCalls (← ahead).length p

end Grammar

end ServiceStubs.Rust
