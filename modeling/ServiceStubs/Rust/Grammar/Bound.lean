import ServiceStubs.Rust.Grammar.Path

/-!
# Bounds and generic parameters

A bound restricts a type: by a trait, by a lifetime, or by a list of what it captures.
Parameters declare the lifetimes, types and values that a declaration is generic in.
-/

namespace ServiceStubs.Rust

namespace Grammar

open ServiceStubs.Rust.Parser ServiceStubs.Rust.Tree

variable (g : Grammar)

/-! ## Parameters -/

/-- Lifetimes joined by plus signs, up to where a test succeeds. -/
def lifetimeBounds (stop : List Tree → Bool) : Parser Unit := do
  let _ ← joinedUntil stop "+" lifetime

/-- A lifetime parameter, with what it outlives. -/
def lifetimeParameter : Parser Unit := do
  lifetime
  if ← punct? ":" then lifetimeBounds fun ts => ts.isEmpty || startsPunctOf [",", ">"] ts

/-- A type parameter, with its bounds and its default. -/
def tyParameter : Parser Unit := do
  let _ ← name
  if ← punct? ":" then
    let _ ← joinedUntil (startsPunctOf [",", ">", "="]) "+" (g.bound false true)
  if ← punct? "=" then
    let _ ← g.ty true

/-- A value parameter, with its type and its default. -/
def constParameter : Parser Unit := do
  word "const"
  let _ ← name
  punct ":"
  let _ ← g.ty true
  if ← punct? "=" then g.constArgument

/-- A generic parameter. -/
def parameter : Parser Unit := do
  g.outerAttributes
  let ts ← ahead
  if startsLifetime ts then lifetimeParameter
  else if startsName ts then g.tyParameter
  else g.constParameter

/-- A parameter of a declaration, where an underscore may stand for a type. -/
def declaredParameter : Parser Unit := do
  g.outerAttributes
  if ← word? "_" then pure () else g.parameter

/-- The generic parameters of a declaration, if it has any. -/
def generics : Parser Unit := do
  if ← punct? "<" then
    let _ ← separatedUntil (startsPunct ">") "," g.declaredParameter
    punct ">"

/-- Lifetimes that a bound or a function type is generic in; says whether there are any. -/
def binder? : Parser Bool := do
  if ← word? "for" then
    punct "<"
    let _ ← separatedUntil (startsPunct ">") "," g.parameter
    punct ">"
    return true
  else return false

/-! ## Bounds -/

/-- The list of what a type captures. -/
def capture : Parser Unit := do
  word "use"
  punct "<"
  let _ ← separatedUntil (startsPunct ">") "," do
    if ← peek startsLifetime then lifetime
    else
      let _ ← nameOr ["Self"]
  punct ">"

/-- Marks of a trait bound for constant evaluation; says whether there are any. -/
def constMark : Parser Bool := do
  if ← peek (startsGroup .bracket) then
    inGroup .bracket (word "const")
    return true
  else word? "const"

/-- A trait bound without parentheses. -/
def traitBound (allowConst : Bool) : Parser BoundPhrase := do
  let bound ← g.binder?
  let isConst ← constMark
  require fun _ => allowConst || !isConst
  let isMaybe ← punct? "?"
  if isMaybe && !bound then
    let _ ← g.binder?
  let p ← g.path false
  if !p.isApplied && startsCall (← ahead) then
    let _ ← g.callArguments
  return if isConst then .constTrait else .trait

/-- A bound. -/
def boundPhrase (allowCapture allowConst : Bool) : Parser BoundPhrase := do
  let ts ← ahead
  if startsLifetime ts then
    lifetime
    return .lifetime
  else if startsWord "use" ts then
    capture
    require fun _ => allowCapture
    return .capture
  else if startsGroup .parenthesis ts then
    inGroup .parenthesis (g.traitBound allowConst)
  else g.traitBound allowConst

/-- Whether a further bound may stand next, after a plus sign. -/
def startsBound (ts : List Tree) : Bool :=
  startsIdent ts || startsPunct "::" ts || startsPunct "?" ts || startsLifetime ts
    || startsGroup .parenthesis ts

/-- Further bounds, each after a plus sign.  The last plus sign may stand alone. -/
def moreBounds (allowCapture allowConst : Bool) : Nat → Parser (List BoundPhrase)
  | 0 => return []
  | n + 1 => do
    if ← punct? "+" then
      let ts ← ahead
      if startsBound ts || allowConst && startsGroup .bracket ts then
        let b ← g.bound allowCapture allowConst
        return b :: (← moreBounds allowCapture allowConst n)
      else return []
    else return []

/-- A bound, and further ones if a sum may stand here. -/
def bounds (allowSum allowCapture allowConst : Bool) : Parser (List BoundPhrase) := do
  let first ← g.bound allowCapture allowConst
  if allowSum then
    return first :: (← g.moreBounds allowCapture allowConst (← ahead).length)
  else return [first]

/-! ## Conditions on parameters -/

/-- Where the conditions end. -/
def endsConditions (ts : List Tree) : Bool :=
  ts.isEmpty || startsGroup .brace ts || startsPunctOf [",", ";", "="] ts || startsColon ts

/-- Where the bounds of a lifetime end. -/
def endsLifetimeBounds (ts : List Tree) : Bool :=
  ts.isEmpty || startsGroup .brace ts || startsPunctOf [",", ";", ":", "="] ts

/-- A condition on a lifetime or a type. -/
def condition : Parser Unit := do
  let ts ← ahead
  if startsLifetime ts && startsPunct ":" (ts.drop 1) then
    lifetime
    punct ":"
    lifetimeBounds endsLifetimeBounds
  else
    let _ ← g.binder?
    let _ ← g.ty true
    punct ":"
    let _ ← joinedUntil endsConditions "+" (g.bound false true)

/-- The conditions of a declaration, if it has any; says whether it has. -/
def conditions? : Parser Bool := do
  if ← word? "where" then
    let _ ← joinedUntil endsConditions "," g.condition
    return true
  else return false

/-- The conditions of a declaration, if it has any. -/
def conditions : Parser Unit := do
  let _ ← g.conditions?

end Grammar

end ServiceStubs.Rust
