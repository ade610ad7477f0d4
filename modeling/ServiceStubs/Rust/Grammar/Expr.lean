import ServiceStubs.Rust.Grammar.Pattern

/-!
# Expressions

An expression is an atom with what trails it, after signs before it, and binary operators
between such parts.  Operators bind by their `Level`: after an operator, the right operand takes
up all that binds more strongly.  Where a block follows, as after `if`, a path does not take the
brace for a structure literal.  At the start of a statement or of a match arm, an expression that
ends in a block is complete, unless a method or a question mark goes on with it.
-/

namespace ServiceStubs.Rust

/-- What the call of a macro is as an expression. -/
def ExprPhrase.ofCall (d : Delimiter) : ExprPhrase :=
  match d with
  | .brace => .braceCall
  | _ => .plain

namespace Grammar

open ServiceStubs.Rust.Parser ServiceStubs.Rust.Tree

variable (g : Grammar)

/-! ## Macro calls -/

/-- The path of a macro, its mark and its tokens; gives the brackets around these. -/
def macroCall : Parser Delimiter := do
  plainPath
  punct "!"
  rawGroup

/-! ## Operators -/

/-- The binary operators, longer ones before their beginnings, with their levels. -/
def operators : List (String × Level) :=
  [("+=", .assign), ("-=", .assign), ("*=", .assign), ("/=", .assign), ("%=", .assign),
   ("^=", .assign), ("&=", .assign), ("|=", .assign), ("<<=", .assign), (">>=", .assign),
   ("&&", .conjunction), ("||", .disjunction), ("<<", .shift), (">>", .shift),
   ("==", .comparison), ("<=", .comparison), ("!=", .comparison), (">=", .comparison),
   ("+", .sum), ("-", .sum), ("*", .product), ("/", .product), ("%", .product),
   ("^", .bitXor), ("&", .bitAnd), ("|", .bitOr), ("<", .comparison), (">", .comparison)]

/-- The binary operator that stands next. -/
def operator? (ts : List Tree) : Option (String × Level) :=
  operators.find? fun o => startsPunct o.1 ts

/-- The level of what goes on next. -/
def nextLevel (ts : List Tree) : Level :=
  match operator? ts with
  | some (_, level) => level
  | none =>
    if startsAssign ts then .assign
    else if startsPunct ".." ts then .range
    else if startsWord "as" ts then .cast
    else .jump

/-! ## Ranges -/

/-- Whether a range ends with its dots here. -/
def endsRange (allowStruct : Bool) (ts : List Tree) : Bool :=
  ts.isEmpty || startsDot ts || !allowStruct && startsGroup .brace ts || startsWord "as" ts
    || startsPunctOf [",", ";", "?", "=>", "=", "+", "/", "%", "^", ">", "<=", "!=", "-=", "*=",
        "&=", "|=", "<<="] ts

/-- The dots of a range; says whether it includes its end. -/
def rangeSign : Parser Bool := do
  let ts ← ahead
  if startsPunct "..=" ts then
    punct "..="
    return true
  else
    require fun ts => !startsPunct "..." ts
    punct ".."
    return false

/-- The dots of a range and its end, if one follows. -/
def rangeEnd (allowStruct : Bool) : Parser Unit := do
  let isClosed ← rangeSign
  if !isClosed && endsRange allowStruct (← ahead) then pure ()
  else
    let e ← g.unary allowStruct
    let _ ← g.extend allowStruct .range e

/-! ## Calls, fields and indices -/

/-- Arguments of a call. -/
def callValues : Parser Unit := do
  let _ ← inGroup .parenthesis (commaSeparated (g.expr true))

/-- What follows the dot of a method or a field. -/
def member : Parser Unit := do
  if ← word? "await" then pure ()
  else
    let isName ← fieldName
    if isName then
      if ← punct? "::" then
        let _ ← g.arguments
        g.callValues
      else whenAhead (startsGroup .parenthesis) g.callValues

/-- The places that a number with points names, as in fields of fields, and whether the number
ends in a point. -/
def places? (spelling : String) : Option (List Nat × Bool) :=
  let parts := spelling.splitOn "."
  match parts.reverse with
  | [] => none
  | [_] => none
  | "" :: before => (before.reverse.mapM fun s => Literal.place? s.toList).map (·, true)
  | _ => (parts.mapM fun s => Literal.place? s.toList).map (·, false)

/-- A dot and what follows it. -/
def access : Parser Unit := do
  punct "."
  match ← ahead with
  | .literal spelling :: _ =>
    match places? spelling with
    | some (ns, trailing) =>
      unprinted (take fun _ => true)
      let numbers := ns.map fun n => Tree.literal (toString n)
      print (numbers.intersperse (.punct '.' false))
      if trailing then
        print [.punct '.' false]
        g.member
    | none => g.member
  | _ => g.member

/-- What trails an expression: calls, indices, members and question marks. -/
def trailers : Nat → ExprPhrase → Parser ExprPhrase
  | 0, e => return e
  | n + 1, e => do
    let ts ← ahead
    if startsGroup .parenthesis ts then
      g.callValues
      trailers n .plain
    else if startsDot ts && e != .range then
      g.access
      trailers n .plain
    else if startsGroup .bracket ts then
      let _ ← inGroup .bracket (g.expr true)
      trailers n .plain
    else if startsPunct "?" ts && e != .range then
      punct "?"
      trailers n .plain
    else return e

/-- What trails an expression. -/
def trailed (e : ExprPhrase) : Parser ExprPhrase := do
  g.trailers (← ahead).length e

/-! ## Structures, tuples and arrays -/

/-- A field of a structure literal. -/
def fieldValue : Parser Unit := do
  g.outerAttributes
  let isName ← fieldName
  if !isName || startsPunct ":" (← ahead) then
    punct ":"
    let _ ← g.expr true

/-- The fields of a structure literal, and the value that the others are taken from. -/
def fieldValues : Nat → Parser Unit
  | 0 => finish
  | n + 1 => do
    if ← atEnd then pure ()
    else if ← punct? ".." then
      if ← atEnd then pure ()
      else
        let _ ← g.expr true
    else
      g.fieldValue
      if ← atEnd then pure ()
      else
        punct ","
        fieldValues n

/-- A path, a macro call or a structure literal. -/
def pathExpr (allowStruct : Bool) : Parser ExprPhrase := do
  let p ← g.qualifiedPath true
  let ts ← ahead
  if !p.qualified && p.isPlain && startsBang ts then
    punct "!"
    return ExprPhrase.ofCall (← rawGroup)
  else
    if allowStruct && startsGroup .brace ts then
      inGroup .brace do
        g.fieldValues ((← ahead).length + 1)
    return .plain

/-- An array: its elements, or one element and a count. -/
def arrayExpr : Parser Unit := inGroup .bracket do
  if ← atEnd then pure ()
  else
    let _ ← g.expr true
    if ← punct? ";" then
      let _ ← g.expr true
    else if ← atEnd then pure ()
    else
      punct ","
      let _ ← commaSeparated (g.expr true)

/-! ## Control -/

/-- A condition or another value before a block. -/
def head : Parser Unit := do
  let _ ← g.expr false

/-- Conditional blocks, in a chain. -/
def ifExpr : Nat → Parser Unit
  | 0 => failure
  | n + 1 => do
    word "if"
    g.head
    g.block
    if ← word? "else" then
      if ← peek (startsWord "if") then ifExpr n else g.block

/-- A loop with a condition. -/
def whileExpr : Parser Unit := do
  word "while"
  g.head
  g.body

/-- A loop over a sequence. -/
def forExpr : Parser Unit := do
  word "for"
  g.anyPattern
  word "in"
  g.head
  g.body

/-- A loop without a condition. -/
def loopExpr : Parser Unit := do
  word "loop"
  g.body

/-- A value and the arms that it is matched with. -/
def matchExpr : Parser Unit := do
  word "match"
  g.head
  inGroup .brace do
    g.innerAttributes
    let _ ← untilEnd g.arm

/-- A loop or a block with a label. -/
def labelled : Parser Unit := do
  lifetime
  punct ":"
  let ts ← ahead
  if startsWord "while" ts then g.whileExpr
  else if startsWord "for" ts then g.forExpr
  else if startsWord "loop" ts then g.loopExpr
  else g.body

/-- Whether an expression can start here. -/
def startsExpr (ts : List Tree) : Bool :=
  startsIdent ts && !startsWord "as" ts || startsLiteral ts || startsLifetime ts
    || startsGroup .parenthesis ts || startsGroup .bracket ts || startsGroup .brace ts
    || startsBang ts
    || startsPunct "-" ts && !startsPunctOf ["-=", "->"] ts
    || startsPunct "*" ts && !startsPunct "*=" ts
    || startsPunct "|" ts && !startsPunct "|=" ts
    || startsPunct "&" ts && !startsPunct "&=" ts
    || startsPunct "<" ts && !startsPunctOf ["<=", "<<="] ts
    || startsPunctOf ["..", "::", "#"] ts

/-- A value that leaves a function, if one follows. -/
def result? : Parser Unit := do
  if ← peek startsExpr then
    let _ ← g.expr true

/-- An end of a loop, with its label and its value. -/
def breakExpr (allowStruct : Bool) : Parser Unit := do
  word "break"
  require fun ts => !(startsLifetime ts && startsPunct ":" (ts.drop 1))
  lifetime?
  let ts ← ahead
  if startsExpr ts && (allowStruct || !startsGroup .brace ts) then
    let _ ← g.expr allowStruct

/-- A condition that binds a pattern. -/
def letExpr (allowStruct : Bool) : Parser Unit := do
  word "let"
  g.anyPattern
  punct "="
  let e ← g.unary allowStruct
  let _ ← g.climb allowStruct .comparison e

/-- Whether a binder of lifetimes stands next, and not a loop. -/
def startsBinder (ts : List Tree) : Bool :=
  startsWord "for" ts && startsPunct "<" (ts.drop 1)
    && (startsLifetime (ts.drop 2) || startsPunct ">" (ts.drop 2))

/-- A parameter of a closure. -/
def closureParameter : Parser Unit := do
  g.outerAttributes
  let _ ← g.pattern
  if ← punct? ":" then
    let _ ← g.ty true

/-- A closure. -/
def closure (allowStruct : Bool) : Parser Unit := do
  let _ ← g.binder?
  let _ ← word? "const"
  let _ ← word? "static"
  let _ ← word? "async"
  let _ ← word? "move"
  punct "|"
  let _ ← separatedUntil (startsPunct "|") "," g.closureParameter
  punct "|"
  if ← punct? "->" then
    let _ ← g.ty true
    g.block
  else
    let _ ← g.expr allowStruct

/-! ## Atoms -/

/-- Whether a closure stands next. -/
def startsClosure (ts : List Tree) : Bool :=
  let next := ts.drop 1
  startsPunct "|" ts || startsWord "move" ts || startsBinder ts
    || startsWord "const" ts && !startsGroup .brace next
    || startsWord "static" ts
    || startsWord "async" ts && (startsPunct "|" next || startsWord "move" next)

/-- Whether an asynchronous block stands next. -/
def startsAsyncBlock (ts : List Tree) : Bool :=
  startsWord "async" ts && (startsGroup .brace (ts.drop 1)
    || startsWord "move" (ts.drop 1) && startsGroup .brace (ts.drop 2))

/-- Whether a path stands next. -/
def startsPath (ts : List Tree) : Bool :=
  startsName ts || startsPunctOf ["::", "<"] ts || startsWordOf placeWords ts
    || startsWord "try" ts && startsPunctOf ["!", "::"] (ts.drop 1)

/-- A keyword expression that is no name anywhere else. -/
def builtinExpr : Parser Unit := do
  word "builtin"
  punct "#"
  let _ ← name
  let d ← rawGroup
  require fun _ => d == .parenthesis

/-- Reads a phrase of the given kind. -/
def phrase (e : ExprPhrase) (p : Parser Unit) : Parser ExprPhrase := do
  p
  return e

/-- An expression in its own brackets or with its own words. -/
def atom (allowStruct : Bool) : Parser ExprPhrase := do
  let ts ← ahead
  let beforeBrace := startsGroup .brace (ts.drop 1)
  if startsLiteral ts then phrase .plain literal
  else if startsAsyncBlock ts then phrase .plain do
    word "async"
    let _ ← word? "move"
    g.block
  else if startsWord "try" ts && beforeBrace then phrase .block do
    word "try"
    g.block
  else if startsClosure ts then phrase .plain (g.closure allowStruct)
  else if startsWord "builtin" ts && startsPunct "#" (ts.drop 1) then
    phrase .plain (verbatim builtinExpr)
  else if startsPath ts then g.pathExpr allowStruct
  else if startsGroup .parenthesis ts then phrase .plain g.callValues
  else if startsWord "break" ts then phrase .plain (g.breakExpr allowStruct)
  else if startsWord "continue" ts then phrase .plain do
    word "continue"
    lifetime?
  else if startsWordOf ["return", "yield"] ts then phrase .plain do
    let _ ← anyIdent
    g.result?
  else if startsWord "become" ts then phrase .plain do
    word "become"
    let _ ← g.expr true
  else if startsGroup .bracket ts then phrase .plain g.arrayExpr
  else if startsWord "let" ts then phrase .plain (g.letExpr allowStruct)
  else if startsWord "if" ts then phrase .block (g.ifExpr ts.length)
  else if startsWord "while" ts then phrase .block g.whileExpr
  else if startsWord "for" ts then phrase .block g.forExpr
  else if startsWord "loop" ts then phrase .block g.loopExpr
  else if startsWord "match" ts then phrase .block g.matchExpr
  else if startsWord "unsafe" ts then phrase .block do
    word "unsafe"
    g.body
  else if startsWord "const" ts then phrase .block g.constBlock
  else if startsGroup .brace ts then phrase .block g.body
  else if startsPunct ".." ts then phrase .range (g.rangeEnd allowStruct)
  else if startsWord "_" ts then phrase .plain (word "_")
  else if startsLifetime ts then phrase .block g.labelled
  else failure

/-! ## Operators before and between -/

/-- A reference to a place, or its address. -/
def referenceExpr (allowStruct : Bool) : Parser Unit := do
  punct "&"
  let ts ← ahead
  if startsWord "raw" ts && startsWordOf ["mut", "const"] (ts.drop 1) then
    word "raw"
    let _ ← anyIdent
  else
    let _ ← word? "mut"
  let _ ← g.unary allowStruct

/-- An expression without binary operators. -/
def unaryExpr (allowStruct : Bool) : Parser ExprPhrase := do
  g.outerAttributes
  let ts ← ahead
  if startsPunct "&" ts then phrase .plain (g.referenceExpr allowStruct)
  else if startsPunct "*" ts then phrase .plain do
    punct "*"
    let _ ← g.unary allowStruct
  else if startsPunct "!" ts then phrase .plain do
    punct "!"
    let _ ← g.unary allowStruct
  else if startsPunct "-" ts then phrase .plain do
    punct "-"
    let _ ← g.unary allowStruct
  else
    let e ← g.atom allowStruct
    g.trailed e

/-- The type after a cast.  Nothing may trail it. -/
def castTy : Parser Unit := do
  word "as"
  let _ ← g.ty false
  require fun ts => !(startsDot ts || startsPunct "?" ts || startsGroup .bracket ts
    || startsGroup .parenthesis ts)

/-- The right operand of an operator, with all that binds more strongly. -/
def operand (allowStruct : Bool) (level : Level) : Parser Unit := do
  let e ← g.unary allowStruct
  let _ ← g.extend allowStruct level e

/-- Operators of at least the given level, after an expression. -/
def climbing (allowStruct : Bool) (base : Level) (left : ExprPhrase) : Parser ExprPhrase := do
  let ts ← ahead
  if left = .range then return left
  match operator? ts with
  | some (sign, level) =>
    if level.rank < base.rank then return left
    else
      require fun _ => !(level = .comparison && left = .comparison)
      punct sign
      g.operand allowStruct level
      g.climb allowStruct base (if level = .comparison then .comparison else .plain)
  | none =>
    if startsAssign ts && base.rank ≤ Level.assign.rank then
      punct "="
      g.operand allowStruct .assign
      g.climb allowStruct base .plain
    else if startsPunct ".." ts && base.rank ≤ Level.range.rank then
      g.rangeEnd allowStruct
      return .range
    else if startsWord "as" ts && base.rank ≤ Level.cast.rank then
      g.castTy
      g.climb allowStruct base .plain
    else return left

/-- Operators that bind more strongly than the one before, after its right operand. -/
def extending (allowStruct : Bool) (level : Level) (right : ExprPhrase) : Parser ExprPhrase := do
  let ts ← ahead
  let next := nextLevel ts
  if level.rank < next.rank || next = .assign && level = .assign then
    let e ← g.climbing allowStruct next right
    if ts.length = (← ahead).length then return e else g.extend allowStruct level e
  else return right

/-- An expression. -/
def expression (allowStruct : Bool) : Parser ExprPhrase := do
  let e ← g.unaryExpr allowStruct
  g.climbing allowStruct .jump e

/-! ## Statements and match arms -/

/-- An expression that is complete after its own block. -/
def blockExpr (ts : List Tree) : Option (Parser Unit) :=
  let beforeBrace := startsGroup .brace (ts.drop 1)
  if startsWord "if" ts then some (g.ifExpr ts.length)
  else if startsWord "while" ts then some g.whileExpr
  else if startsWord "for" ts && !startsBinder ts then some g.forExpr
  else if startsWord "loop" ts then some g.loopExpr
  else if startsWord "match" ts then some g.matchExpr
  else if startsWord "try" ts && beforeBrace then some do
    word "try"
    g.block
  else if startsWord "unsafe" ts then some do
    word "unsafe"
    g.body
  else if startsWord "const" ts && beforeBrace then some g.constBlock
  else if startsGroup .brace ts then some g.body
  else if startsLifetime ts then some g.labelled
  else none

/-- An expression at the start of a statement or of a match arm. -/
def leadingExpr : Parser ExprPhrase := do
  g.outerAttributes
  let ts ← ahead
  match g.blockExpr ts with
  | some p =>
    p
    let ts ← ahead
    if startsDot ts || startsPunct "?" ts then
      let e ← g.trailed .block
      g.climbing true .jump e
    else return .block
  | none => g.expression true

/-- An arm of a match. -/
def matchArm : Parser Unit := do
  g.outerAttributes
  g.anyPattern
  if ← word? "if" then
    let _ ← g.expr true
  punct "=>"
  let e ← g.leadingExpr
  if e != .block && !(← atEnd) then punct ","
  else
    let _ ← punct? ","

end Grammar

end ServiceStubs.Rust
