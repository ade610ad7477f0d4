import ServiceStubs.Rust.Grammar.Bound

/-!
# Types

A type starts with a word or a sign that tells its kind; only a path may turn out to be the
first bound of a sum.  Of a type that is no path, reference or type in parentheses, the printed
tokens are kept.
-/

namespace ServiceStubs.Rust

/-- The type of a path. -/
def PathPhrase.toTy (p : PathPhrase) : Ty :=
  match p.argument with
  | some t => .applied p.qualified p.name t
  | none => .path p.qualified p.name

/-- Keeps the tokens of a type that is kept as its tokens. -/
def Ty.withTokens (t : Ty) (tokens : List Tree) : Ty :=
  match t with
  | .other _ => .other tokens
  | t => t

namespace Grammar

open ServiceStubs.Rust.Parser ServiceStubs.Rust.Tree

variable (g : Grammar)

/-- A type whose tokens are all that is kept.  They are filled in once it has been read. -/
def otherTy (isBound : Bool) : TyPhrase := ⟨.other [], false, isBound⟩

/-! ## Paths and sums -/

/-- The bounds of a sum after its first one, each after a plus sign; says whether the sum has
any sign. -/
def sum (allowSum : Bool) : Parser Bool := do
  if allowSum && startsPunct "+" (← ahead) then
    let _ ← g.moreBounds false false (← ahead).length
    return true
  else return false

/-- A type that starts with a path: the path, a macro call, or a sum of bounds. -/
def pathTy (bound allowSum : Bool) : Parser TyPhrase := do
  let p ← g.tyPath
  if p.qualified then return ⟨p.toTy, false, false⟩
  else if p.isPlain && startsBang (← ahead) then
    punct "!"
    let _ ← rawGroup
    return otherTy false
  else if ← g.sum allowSum then return otherTy false
  else if bound then return otherTy true
  else return ⟨p.toTy, p.isBinding, true⟩

/-! ## Parentheses -/

/-- What stands in parentheses. -/
inductive Enclosed where
  | nothing
  | single (t : TyPhrase)
  | several
  /-- A bound that may be missing. -/
  | maybe

/-- A sum of bounds that starts with a lifetime. -/
def lifetimeSum : Parser Unit := do
  let list ← g.bounds true false false
  require fun _ => list.any fun b => match b with
    | .trait => true
    | _ => false

/-- The content of parentheses. -/
def enclosed : Parser Enclosed := do
  let ts ← ahead
  if ts.isEmpty then return .nothing
  else if startsLifetime ts then
    let (_, tokens) ← recorded g.lifetimeSum
    return .single ⟨.other tokens, false, false⟩
  else if startsPunct "?" ts then
    let _ ← g.traitBound false
    return .maybe
  else
    let t ← g.ty true
    if ← punct? "," then
      let _ ← commaSeparated (g.ty true)
      return .several
    else return .single t

/-- Bounds that each follow a plus sign. -/
def furtherBounds : Parser Unit := do
  let _ ← whileAhead (startsPunct "+") do
    punct "+"
    g.bound true true

/-- A type that starts with parentheses. -/
def parenTy (allowSum : Bool) : Parser TyPhrase := do
  match ← inGroup .parenthesis g.enclosed with
  | .nothing => return ⟨.unit, false, false⟩
  | .several => return otherTy false
  | .maybe =>
    let isAlone := !startsPunct "+" (← ahead)
    g.furtherBounds
    return otherTy isAlone
  | .single t =>
    if allowSum && t.isBound && startsPunct "+" (← ahead) then
      g.furtherBounds
      return otherTy false
    else return ⟨.paren t.ty, false, false⟩

/-! ## Function types -/

/-- Whether a name and a colon stand next. -/
def startsNamed (ts : List Tree) : Bool :=
  (startsName ts || startsWord "_" ts) && startsColon (ts.drop 1)

/-- A parameter of a function type.  The first one may be the receiver. -/
def fnTyParameter (isFirst : Bool) : Parser Unit := do
  let mutSelf ← (do
    if isFirst && startsWord "mut" (← ahead) && startsWord "self" ((← ahead).drop 1) then
      word "mut"
      return true
    else return false)
  let ts ← ahead
  if startsNamed ts || isFirst && startsWord "self" ts && startsColon (ts.drop 1) then
    let _ ← anyIdent
    punct ":"
    if isFirst && startsWord "mut" (← ahead) && startsWord "self" ((← ahead).drop 1) then
      word "mut"
      word "self"
    else
      let _ ← g.ty true
  else if mutSelf then word "self"
  else
    let _ ← g.ty true

/-- Whether the mark of further arguments stands next, perhaps after a name. -/
def startsVariadic (ts : List Tree) : Bool :=
  startsPunct "..." ts
    || (startsName ts || startsWord "_" ts) && startsPunct ":" (ts.drop 1)
      && startsPunct "..." (ts.drop 2)

/-- The mark of further arguments, perhaps after a name. -/
def variadic : Parser Unit := do
  if ← peek (startsPunct "...") then pure ()
  else
    let _ ← anyIdent
    punct ":"
  punct "..."
  let _ ← punct? ","

/-- The parameters of a function type. -/
def fnTyParameters : Nat → Bool → Parser Unit
  | 0, _ => finish
  | n + 1, isFirst => do
    if ← atEnd then pure ()
    else
      g.outerAttributes
      if ← peek startsVariadic then variadic
      else
        g.fnTyParameter isFirst
        if ← atEnd then pure ()
        else
          punct ","
          fnTyParameters n false

/-- The name of a calling convention, if one is given. -/
def convention? : Parser Unit := do
  if ← word? "extern" then whenAhead startsString string

/-- A function type. -/
def fnTy : Parser Unit := do
  let _ ← word? "unsafe"
  convention?
  word "fn"
  inGroup .parenthesis do
    g.fnTyParameters ((← ahead).length + 1) true
  let _ ← g.output false

/-! ## The other types -/

/-- Bounds after a word, of which one has to be a trait.  A lifetime or a list of captures is
none. -/
def traitSum (allowSum allowCapture allowConst : Bool) : Parser Unit := do
  let list ← g.bounds allowSum allowCapture allowConst
  require fun _ => list.any fun b => match b with
    | .trait => true
    | .constTrait => true
    | _ => false

/-- An array or a slice, in its brackets. -/
def sequenceTy : Parser Unit := inGroup .bracket do
  let _ ← g.ty true
  if ← punct? ";" then
    let _ ← g.expr true

/-- A raw pointer. -/
def pointerTy : Parser Unit := do
  punct "*"
  if ← word? "const" then pure () else word "mut"
  let _ ← g.ty false

/-- A reference. -/
def referenceTy : Parser TyPhrase := do
  punct "&"
  lifetime?
  let _ ← word? "mut"
  let t ← g.ty false
  return ⟨.reference t.ty, false, false⟩

/-- Words that a function type starts with. -/
def fnWords : List String := ["fn", "unsafe", "extern"]

/-- A type, whose tokens may still have to be filled in. -/
def tyStart (allowSum : Bool) : Parser TyPhrase := do
  let bound ← g.binder?
  let ts ← ahead
  if startsGroup .parenthesis ts && !bound then g.parenTy allowSum
  else if startsWordOf fnWords ts then
    g.fnTy
    return otherTy false
  else if startsName ts || startsWordOf placeWords ts
      || !bound && (startsPunct "::" ts || startsPunct "<" ts) then
    g.pathTy bound allowSum
  else if bound then failure
  else if startsPunct "&" ts then g.referenceTy
  else if startsWord "dyn" ts then
    word "dyn"
    let _ ← punct? "*"
    g.traitSum allowSum false false
    return otherTy false
  else if startsGroup .bracket ts then
    g.sequenceTy
    return otherTy false
  else if startsPunct "*" ts then
    g.pointerTy
    return otherTy false
  else if startsPunct "!" ts && !startsPunct "=" ts then
    punct "!"
    return otherTy false
  else if startsWord "impl" ts then
    word "impl"
    g.traitSum allowSum true true
    return otherTy false
  else if startsWord "_" ts then
    word "_"
    return otherTy false
  else if startsLifetime ts then
    g.lifetimeSum
    return otherTy false
  else failure

/-- A type. -/
def typePhrase (allowSum : Bool) : Parser TyPhrase := do
  let (t, tokens) ← recorded (g.tyStart allowSum)
  return { t with ty := t.ty.withTokens tokens }

end Grammar

end ServiceStubs.Rust
