import ServiceStubs.Rust.Grammar.Type

/-!
# Patterns

A pattern starts with a path, a literal, a binding, a sign or a bracket.  Alternatives stand
between bars.  A range without one of its ends may not be an element of a slice pattern.
-/

namespace ServiceStubs.Rust

namespace Grammar

open ServiceStubs.Rust.Parser ServiceStubs.Rust.Tree

variable (g : Grammar)

/-! ## Alternatives -/

/-- A bar that separates alternatives. -/
def startsBar (ts : List Tree) : Bool :=
  startsPunct "|" ts && !startsPunctOf ["||", "|="] ts

/-- Alternatives, with or without a bar before the first; says whether it is a single range
open at an end. -/
def alternatives : Parser Bool := do
  let leading ← punct? "|"
  let isOpen ← g.pattern
  let further ← whileAhead startsBar do
    punct "|"
    g.pattern
  return isOpen && !leading && further.isEmpty

/-- Alternatives whose kind does not matter. -/
def anyPattern : Parser Unit := do
  let _ ← g.alternatives

/-! ## Ranges -/

/-- Whether no bound of a range stands next. -/
def endsRangePattern (ts : List Tree) : Bool :=
  ts.isEmpty || startsPunctOf ["|", "=", ",", ";"] ts || startsColon ts || startsWord "if" ts

/-- A constant block. -/
def constBlock : Parser Unit := do
  word "const"
  g.body

/-- A bound of a range: a literal, a path or a constant block; says whether there is one. -/
def rangeBound : Parser Bool := do
  let ts ← ahead
  if endsRangePattern ts then return false
  else
    if startsLiteral ts then literal
    else if startsWord "const" ts then g.constBlock
    else
      let _ ← g.qualifiedPath true
    return true

/-- The dots of a range, after its lower bound; says whether an upper bound has to follow. -/
def rangeDots : Parser Bool := do
  let ts ← ahead
  if startsPunct "..=" ts then
    punct "..="
    return true
  else if startsPunct "..." ts then
    unprinted (punct "...")
    print [.punct '.' true, .punct '.' true, .punct '=' false]
    return true
  else
    punct ".."
    return false

/-- A range after its lower bound; says whether it is open. -/
def rangeFrom : Parser Bool := do
  let isClosed ← rangeDots
  let hasEnd ← g.rangeBound
  require fun _ => hasEnd || !isClosed
  return !hasEnd

/-- A range without a lower bound, or the two dots that stand for any elements. -/
def rangeTo : Parser Bool := do
  let isClosed ← rangeDots
  let hasEnd ← g.rangeBound
  require fun _ => hasEnd || !isClosed
  return hasEnd

/-- A literal or a constant block, or a range that starts with one. -/
def literalPattern : Parser Bool := do
  let hasStart ← g.rangeBound
  require fun _ => hasStart
  if ← peek (startsPunct "..") then g.rangeFrom else return false

/-! ## Structures, tuples and slices -/

/-- A field of a structure: a name or the place of a field without a name.  Says whether it is
a name. -/
def fieldName : Parser Bool := do
  match ← ahead with
  | .literal spelling :: _ =>
    match Literal.place? spelling.toList with
    | some n =>
      unprinted (take fun _ => true)
      print [.literal (toString n)]
      return false
    | none => failure
  | _ =>
    let _ ← name
    return true

/-- A field of a structure pattern: a binding, or a field with a pattern. -/
def fieldPattern : Parser Unit := do
  let boxed ← word? "box"
  let byRef ← word? "ref"
  let mutable ← word? "mut"
  if boxed || byRef || mutable then
    let _ ← name
  else
    let isName ← fieldName
    if !isName || startsPunct ":" (← ahead) then
      punct ":"
      g.anyPattern

/-- The fields of a structure pattern. -/
def fieldPatterns : Nat → Parser Unit
  | 0 => finish
  | n + 1 => do
    if ← atEnd then pure ()
    else
      g.outerAttributes
      if ← punct? ".." then pure ()
      else
        g.fieldPattern
        if ← atEnd then pure ()
        else
          punct ","
          fieldPatterns n

/-- A slice pattern. -/
def slicePattern : Parser Unit := inGroup .bracket do
  let _ ← commaSeparated do
    let isOpen ← g.alternatives
    require fun _ => !isOpen

/-- A pattern that starts with a path. -/
def pathPattern : Parser Bool := do
  let p ← g.qualifiedPath true
  let ts ← ahead
  if !p.qualified && p.isPlain && startsBang ts then
    punct "!"
    let _ ← rawGroup
    return false
  else if startsGroup .brace ts then
    inGroup .brace do
      g.fieldPatterns ((← ahead).length + 1)
    return false
  else if startsGroup .parenthesis ts then
    let _ ← inGroup .parenthesis (commaSeparated g.anyPattern)
    return false
  else if startsPunct ".." ts then g.rangeFrom
  else return false

/-! ## All of them -/

/-- A binding, with a pattern that the value has to match as well. -/
def bindingPattern : Parser Unit := do
  let _ ← word? "ref"
  let _ ← word? "mut"
  let _ ← nameOr ["self"]
  if ← punct? "@" then
    let _ ← g.pattern

/-- Whether a path is a pattern of its own here and no binding. -/
def startsPathPattern (ts : List Tree) : Bool :=
  let next := ts.drop 1
  startsName ts && (startsPunctOf ["::", "!", ".."] next || startsGroup .brace next
      || startsGroup .parenthesis next)
    || startsWord "self" ts && startsPunct "::" next
    || startsPunctOf ["::", "<"] ts
    || startsWordOf ["Self", "super", "crate"] ts

/-- A pattern without alternatives; says whether it is a range open at an end. -/
def singlePattern : Parser Bool := do
  let ts ← ahead
  if startsPathPattern ts then g.pathPattern
  else if startsWord "_" ts then
    word "_"
    return false
  else if startsWord "box" ts then
    word "box"
    let _ ← g.pattern
    return false
  else if startsPunct "-" ts || startsLiteral ts || startsWord "const" ts then g.literalPattern
  else if startsName ts || startsWordOf ["ref", "mut", "self"] ts then
    g.bindingPattern
    return false
  else if startsPunct "&" ts then
    punct "&"
    let _ ← word? "mut"
    let _ ← g.pattern
    return false
  else if startsGroup .parenthesis ts then
    let _ ← inGroup .parenthesis (commaSeparated g.anyPattern)
    return false
  else if startsGroup .bracket ts then
    g.slicePattern
    return false
  else if startsPunct ".." ts && !startsPunct "..." ts then g.rangeTo
  else failure

end Grammar

end ServiceStubs.Rust
