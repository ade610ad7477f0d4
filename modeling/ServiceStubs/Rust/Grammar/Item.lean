import ServiceStubs.Rust.Grammar.Expr

/-!
# Statements and items

A block holds statements: bindings, items, macro calls and expressions.  A file, a module, a
trait and an implementation hold items, each with attributes before it and perhaps a visibility.
Of an item, only declared types, implementations and inline modules are kept.
-/

namespace ServiceStubs.Rust

namespace Grammar

open ServiceStubs.Rust.Parser ServiceStubs.Rust.Tree

variable (g : Grammar)

/-! ## Visibility -/

/-- The visibility before an item or a field.  Parentheses after the word belong to it only if
they name a module. -/
def visibility : Parser Visibility := do
  if ← word? "pub" then
    match ← ahead with
    | .group .parenthesis content :: _ =>
      if startsWordOf ["crate", "self", "super"] content && (content.drop 1).isEmpty then
        let _ ← rawGroup
        return .restricted
      else if startsWord "in" content then
        inGroup .parenthesis do
          word "in"
          plainPath
        return .restricted
      else return .everywhere
    | _ => return .everywhere
  else return .hidden

/-- What stands after a visibility, if there is one. -/
def afterVisibility : Parser (List Tree) := do
  match ← foresee (do
    let _ ← visibility
    ahead) with
  | some ts => return ts
  | none => failure

/-! ## Functions -/

/-- The receiver of a method. -/
def receiver : Parser Unit := do
  if ← punct? "&" then
    lifetime?
    let _ ← word? "mut"
    word "self"
  else
    let _ ← word? "mut"
    word "self"
    if ← punct? ":" then
      let _ ← g.ty true

/-- A parameter with a pattern and a type, or the mark of further arguments after a pattern;
says whether it was a parameter. -/
def fnParameter : Parser Bool := do
  let ts ← ahead
  if startsName ts && startsPunct "<" (ts.drop 1) then
    let _ ← g.ty true
    return true
  else
    let _ ← g.pattern
    punct ":"
    if ← punct? "..." then return false
    else
      let _ ← g.ty true
      return true

/-- The parameters of a function; says whether the first one is a receiver.  No other may be. -/
def fnParameters : Nat → Bool → Parser Bool
  | 0, _ => do
    finish
    return false
  | n + 1, isFirst => do
    if ← atEnd then return false
    else
      g.outerAttributes
      if ← punct? "..." then
        let _ ← punct? ","
        return false
      else
        match ← attempt g.receiver with
        | some _ =>
          require fun _ => isFirst
          if ← punct? "," then
            let _ ← fnParameters n false
          return true
        | none =>
          if ← g.fnParameter then
            if ← punct? "," then fnParameters n false else return false
          else
            let _ ← punct? ","
            return false

/-- Drops a word, if it stands first. -/
def dropWord (w : String) (ts : List Tree) : List Tree :=
  if startsWord w ts then ts.drop 1 else ts

/-- Whether the words before a function stand next.  In a block of foreign items one of them
may say that a function is safe. -/
def startsFn (allowSafe : Bool) (ts : List Tree) : Bool :=
  let ts := dropWord "async" (dropWord "const" ts)
  let ts := if allowSafe && startsWord "safe" ts then ts.drop 1 else dropWord "unsafe" ts
  let ts := if startsWord "extern" ts then
      let ts := ts.drop 1
      if startsString ts then ts.drop 1 else ts
    else ts
  startsWord "fn" ts

/-- A function up to its body: its name, whether it has a receiver, and its output. -/
def signature (allowSafe : Bool) : Parser (String × Bool × Option Ty) := do
  let _ ← word? "const"
  let _ ← word? "async"
  if allowSafe && startsWord "safe" (← ahead) then word "safe"
  else
    let _ ← word? "unsafe"
  convention?
  word "fn"
  let name ← name
  g.generics
  let hasReceiver ← inGroup .parenthesis do
    g.fnParameters ((← ahead).length + 1) true
  let output ← g.output true
  g.conditions
  return (name, hasReceiver, output)

/-! ## Fields -/

/-- The type of a field without a name: a structure or a union may be written out. -/
def unnamedFieldTy (fields : Parser Unit) : Parser Unit := do
  let ts ← ahead
  if startsWord "struct" ts || startsWord "union" ts && startsGroup .brace (ts.drop 1) then
    verbatim do
      let _ ← anyIdent
      fields
  else
    let _ ← g.ty true

/-- A field with a name. -/
def namedField (fields : Parser Unit) : Parser Unit := do
  g.outerAttributes
  let _ ← visibility
  if ← word? "_" then
    punct ":"
    g.unnamedFieldTy fields
  else
    let _ ← name
    punct ":"
    let _ ← g.ty true

/-- Fields with names, in braces; fields of fields are read so many levels deep. -/
def namedFields : Nat → Parser Unit
  | 0 => failure
  | n + 1 => do
    let _ ← inGroup .brace (commaSeparated (g.namedField (namedFields n)))

/-- Fields with names, in braces. -/
def braceFields : Parser Unit := do
  g.namedFields (Tree.count.counts (← ahead))

/-- Fields without names, in parentheses. -/
def tupleFields : Parser Unit := do
  let _ ← inGroup .parenthesis <| commaSeparated do
    g.outerAttributes
    let _ ← visibility
    g.ty true

/-- A structure after its generic parameters. -/
def structContent : Parser Unit := do
  let hasConditions ← g.conditions?
  let ts ← ahead
  if !hasConditions && startsGroup .parenthesis ts then
    g.tupleFields
    g.conditions
    punct ";"
  else if startsGroup .brace ts then g.braceFields
  else punct ";"

/-- A variant of an enumeration. -/
def variant : Parser Unit := do
  g.outerAttributes
  let _ ← unprinted visibility
  let _ ← name
  let ts ← ahead
  if startsGroup .brace ts then g.braceFields
  else if startsGroup .parenthesis ts then g.tupleFields
  if ← punct? "=" then
    let _ ← g.expr true

/-! ## Constants and types -/

/-- A constant after its word. -/
def constContent : Parser Unit := do
  let _ ← nameOr ["_"]
  g.generics
  punct ":"
  let _ ← g.ty true
  if ← punct? "=" then
    let _ ← g.expr true
  g.conditions
  punct ";"

/-- A static value after its word. -/
def staticContent : Parser Unit := do
  let _ ← word? "mut"
  let _ ← name
  if ← punct? "=" then
    let _ ← g.expr true
  else
    punct ":"
    let _ ← g.ty true
    if ← punct? "=" then
      let _ ← g.expr true
  punct ";"

/-- Bounds after a colon, joined by plus signs up to where a test succeeds. -/
def boundsUntil (stop : List Tree → Bool) : Parser Unit := do
  if ← punct? ":" then
    let _ ← separatedUntil stop "+" (g.bound false true)

/-- A type alias or an associated type, from its word on.  Conditions may stand before the
equals sign, after the type, or at either place. -/
def tyContent (before after : Bool) : Parser Unit := do
  word "type"
  let _ ← name
  g.generics
  g.boundsUntil fun ts => startsWord "where" ts || startsPunctOf ["=", ";"] ts
  let hasConditions ← if before then g.conditions? else pure false
  if ← punct? "=" then
    let _ ← g.ty true
  if after && !hasConditions then g.conditions
  punct ";"

/-! ## Imports -/

/-- A tree of imports.  At its top, a group of trees may start from the root. -/
def importTree (allowRoot : Bool) : Parser Unit := do
  let ts ← ahead
  if startsName ts || startsWordOf ["self", "super", "crate", "try"] ts then
    let _ ← anyIdent
    if ← punct? "::" then g.imports false
    else if ← word? "as" then
      let _ ← nameOr ["_"]
  else if startsPunct "*" ts then punct "*"
  else
    let _ ← inGroup .brace <| commaSeparated do
      let fromRoot ← if allowRoot then punct? "::" else pure false
      g.imports (allowRoot && !fromRoot)

/-- Imports, from their word on. -/
def useContent : Parser Unit := do
  word "use"
  let leading ← punct? "::"
  g.imports (!leading)
  punct ";"

/-! ## Macro calls -/

/-- Whether the path of a macro call stands next. -/
def startsCallPath (ts : List Tree) : Bool :=
  startsName ts || startsWordOf ["self", "super", "crate"] ts || startsPunct "::" ts

/-- A macro call among other items. -/
def callItem : Parser Unit := do
  let d ← macroCall
  if d != .brace then punct ";"

/-- A macro call as an item; it may declare a name. -/
def declaringCall : Parser Unit := do
  plainPath
  punct "!"
  let ts ← ahead
  if startsName ts || startsWord "try" ts then
    let _ ← anyIdent
  let d ← rawGroup
  if d != .brace then punct ";"

/-- A macro definition by name, from its word on. -/
def macroDefinition : Parser Unit := do
  word "macro"
  let _ ← name
  if ← peek (startsGroup .parenthesis) then
    let _ ← rawGroup
  let d ← rawGroup
  require fun _ => d == .brace

/-! ## Traits -/

/-- An item of a trait. -/
def traitItem : Parser Unit := do
  g.outerAttributes
  let v ← visibility
  let isDefault ← word? "default"
  let ts ← ahead
  if startsFn false ts then
    let _ ← g.signature false
    if ← punct? ";" then pure () else g.body
  else if startsWord "const" ts then
    word "const"
    g.constContent
  else if startsWord "type" ts then g.tyContent false true
  else
    require fun ts => v = .hidden && !isDefault && startsCallPath ts
    callItem

/-- A trait after its generic parameters. -/
def traitContent : Parser Unit := do
  g.boundsUntil fun ts => startsWord "where" ts || startsGroup .brace ts
  g.conditions
  inGroup .brace do
    g.innerAttributes
    let _ ← untilEnd g.traitItem

/-- A trait, from its own words on. -/
def traitDeclaration : Parser Unit := do
  let _ ← word? "unsafe"
  let _ ← word? "auto"
  word "trait"
  let _ ← name
  g.generics
  g.traitContent

/-- A trait or a name for a sum of traits. -/
def traitOrAlias : Parser Unit := do
  word "trait"
  let _ ← name
  g.generics
  if ← punct? "=" then
    let _ ← separatedUntil (fun ts => startsWord "where" ts || startsPunct ";" ts) "+"
      (g.bound false true)
    g.conditions
    punct ";"
  else g.traitContent

/-! ## Foreign items -/

/-- An item of a block of foreign items. -/
def foreignItem : Parser Unit := do
  g.outerAttributes
  let v ← visibility
  let ts ← ahead
  if startsFn true ts then
    let _ ← g.signature true
    if ← peek (startsGroup .brace) then g.body else punct ";"
  else if startsWord "static" ts
      || startsWordOf ["unsafe", "safe"] ts && startsWord "static" (ts.drop 1) then
    if ← word? "unsafe" then pure ()
    else
      let _ ← word? "safe"
    word "static"
    let _ ← word? "mut"
    let _ ← name
    punct ":"
    let _ ← g.ty true
    if ← punct? "=" then
      let _ ← g.expr true
    punct ";"
  else if startsWord "type" ts then g.tyContent true true
  else
    require fun ts => v = .hidden && startsCallPath ts
    callItem

/-- A block of foreign items. -/
def foreignBlock : Parser Unit := do
  let _ ← word? "unsafe"
  word "extern"
  whenAhead startsString string
  inGroup .brace do
    g.innerAttributes
    let _ ← untilEnd g.foreignItem

/-! ## Implementations -/

/-- Whether generic parameters stand next, and not a path that starts from a type. -/
def startsGenerics (ts : List Tree) : Bool :=
  let next := ts.drop 1
  let third := ts.drop 2
  startsPunct "<" ts && (startsPunctOf [">", "#"] next || startsWord "const" next
    || (startsLifetime next || startsName next)
      && (startsPunctOf [">", ",", "="] third || startsColon third))

/-- An item of an implementation; gives it if it is a function with a body. -/
def implItem : Parser (Option Method) := do
  g.outerAttributes
  let visibility ← visibility
  let ts ← ahead
  let isDefault := startsWord "default" ts && !startsPunct "!" (ts.drop 1)
  if isDefault then word "default"
  let ts ← ahead
  if startsFn false ts then
    let (name, hasReceiver, output) ← g.signature false
    if ← punct? ";" then return none
    else
      g.body
      return some { name, visibility, hasReceiver, output }
  else if startsWord "const" ts then
    word "const"
    g.constContent
    return none
  else if startsWord "type" ts then
    g.tyContent false true
    return none
  else
    require fun ts => visibility = .hidden && !isDefault && startsCallPath ts
    callItem
    return none

/-- The last name of a type that is the path of a trait. -/
def traitName? (t : Ty) : Option String :=
  match t with
  | .path false name => some name
  | .applied false name _ => some name
  | _ => none

/-- An implementation.  One with a visibility or for constant evaluation only, or of what is no
trait, is not kept. -/
def implementation : Parser Item := do
  let v ← visibility
  let _ ← word? "default"
  let _ ← word? "unsafe"
  word "impl"
  if ← peek startsGenerics then g.generics
  let ts ← ahead
  let isConst ← (do
    if startsWord "const" ts || startsPunct "?" ts && startsWord "const" (ts.drop 1) then
      let _ ← punct? "?"
      word "const"
      return true
    else return false)
  let ts ← ahead
  let isNegative := startsPunct "!" ts && !startsGroup .brace (ts.drop 1)
  if isNegative then punct "!"
  let first ← g.ty true
  let target ← (do
    if ← word? "for" then
      let t ← g.ty true
      return some t.ty
    else return none)
  g.conditions
  let methods ← inGroup .brace do
    g.innerAttributes
    untilEnd g.implItem
  let methods := methods.filterMap id
  if v != .hidden || isConst then return .other
  else
    match target with
    | none =>
      let selfType := if isNegative then .other [] else first.ty
      return .implBlock { selfType, trait? := none, methods }
    | some selfType =>
      match traitName? first.ty with
      | some name => return .implBlock { selfType, trait? := some name, methods }
      | none => return .other

/-! ## Declarations -/

/-- A structure, an enumeration or a union, from its word on: its name. -/
def typeDeclaration : Parser String := do
  let ts ← ahead
  let _ ← anyIdent
  let name ← name
  g.generics
  if startsWord "struct" ts then g.structContent
  else if startsWord "enum" ts then
    g.conditions
    let _ ← inGroup .brace (commaSeparated g.variant)
  else
    g.conditions
    g.braceFields
  return name

/-- A module: with its content, or elsewhere. -/
def moduleDeclaration : Parser Item := do
  let _ ← word? "unsafe"
  word "mod"
  let name ← nameOr ["try"]
  if ← punct? ";" then return .other
  else
    let items ← inGroup .brace do
      g.innerAttributes
      untilEnd g.item
    return .inlineModule name items

/-- An imported crate. -/
def crateImport : Parser Unit := do
  word "extern"
  word "crate"
  let _ ← nameOr ["self"]
  if ← word? "as" then
    let _ ← nameOr ["_"]
  punct ";"

/-- Reads an item of which nothing is kept. -/
def passing (p : Parser Unit) : Parser Item := do
  p
  return .other

/-- An item of which nothing is kept, after a visibility. -/
def declaration (p : Parser Unit) : Parser Item := passing do
  let _ ← visibility
  p

/-- An item that starts, after its visibility, with the word for unsafe ones. -/
def unsafeItem (ts : List Tree) : Parser Item :=
  if startsWord "trait" ts || startsWord "auto" ts && startsWord "trait" (ts.drop 1) then
    declaration g.traitDeclaration
  else if startsWord "impl" ts then g.implementation
  else if startsWord "extern" ts then passing g.foreignBlock
  else do
    let _ ← visibility
    g.moduleDeclaration

/-- An item that starts, after its visibility, with the word for foreign ones and is no
function. -/
def externItem (ts : List Tree) : Parser Item :=
  if startsWord "crate" ts then declaration crateImport
  else passing g.foreignBlock

/-- An item. -/
def itemPhrase : Parser Item := do
  g.outerAttributes
  let ts ← afterVisibility
  let next := ts.drop 1
  if startsFn false ts then declaration do
    let _ ← g.signature false
    if ← punct? ";" then pure () else g.body
  else if startsWord "extern" ts then g.externItem next
  else if startsWord "use" ts then declaration g.useContent
  else if startsWord "static" ts then declaration do
    word "static"
    g.staticContent
  else if startsWord "const" ts then declaration do
    word "const"
    g.constContent
  else if startsWord "unsafe" ts then g.unsafeItem next
  else if startsWord "mod" ts then
    let _ ← visibility
    g.moduleDeclaration
  else if startsWord "type" ts then declaration (g.tyContent true false)
  else if startsWordOf ["struct", "enum"] ts then
    let v ← visibility
    return .declared (← g.typeDeclaration) v
  else if startsWord "union" ts && startsName next then declaration do
    let _ ← g.typeDeclaration
  else if startsWord "trait" ts then declaration g.traitOrAlias
  else if startsWord "auto" ts && startsWord "trait" next then declaration g.traitDeclaration
  else if startsWord "impl" ts || startsWord "default" ts && !startsPunct "!" next then
    g.implementation
  else if startsWord "macro" ts then declaration macroDefinition
  else
    require startsCallPath
    passing declaringCall

/-! ## Statements -/

/-- A binding, with a block for values that do not match.  That block may not follow another
one. -/
def binding : Parser Unit := do
  word "let"
  let _ ← g.pattern
  if ← punct? ":" then
    let _ ← g.ty true
  if ← punct? "=" then
    let _ ← g.expr true
    let endsInBlock := match ← newest with
      | some (.group .brace _) => true
      | _ => false
    if !endsInBlock && startsWord "else" (← ahead) then
      word "else"
      g.block
  punct ";"

/-- Whether an item stands next in a block. -/
def startsItem (ts : List Tree) : Bool :=
  let next := ts.drop 1
  let third := ts.drop 2
  startsWordOf ["pub", "extern", "use", "fn", "mod", "type", "struct", "enum", "trait", "impl",
      "macro"] ts
    || startsWord "crate" ts && !startsPunct "::" next
    || startsWord "static" ts && (startsWord "mut" next || startsName next)
    || startsWord "const" ts && !(startsGroup .brace next || startsWordOf ["static", "move"] next
      || startsPunct "|" next
      || startsWord "async" next && !startsWordOf ["unsafe", "extern", "fn"] third)
    || startsWord "unsafe" ts && !startsGroup .brace next
    || startsWord "async" ts && startsWordOf ["unsafe", "extern", "fn"] next
    || startsWord "union" ts && startsName next
    || startsWord "auto" ts && startsWord "trait" next
    || startsWord "default" ts && startsWordOf ["unsafe", "impl"] next

/-- How a macro call starts a statement. -/
inductive CallStatement where
  /-- It does not. -/
  | none
  /-- It declares a name. -/
  | declaring
  /-- It ends with its braces. -/
  | complete

/-- How a macro call starts the next statement. -/
def callStatement : Parser CallStatement := do
  match ← foresee (do
    plainPath
    ahead) with
  | some ts =>
    let next := ts.drop 1
    let third := ts.drop 2
    if startsPunct "!" ts then
      if startsName next || startsWord "try" next then return .declaring
      else if startsGroup .brace next && !(startsDot third || startsPunct "?" third) then
        return .complete
      else return .none
    else return .none
  | none => return .none

/-- A statement; says whether no other may follow it. -/
def statement : Parser Bool := do
  g.outerAttributes
  let passItem : Parser Bool := do
    let _ ← g.item
    return false
  match ← callStatement with
  | .complete =>
    let _ ← macroCall
    let _ ← punct? ";"
    return false
  | .declaring => passItem
  | .none =>
    let ts ← ahead
    if startsWord "let" ts then
      g.binding
      return false
    else if startsItem ts then passItem
    else
      let e ← g.leadingExpr
      let ended ← punct? ";"
      return !ended && e != .block && e != .braceCall

/-- The statements of a block.  One that does not end has to be the last. -/
def statementsFuel : Nat → Parser Unit
  | 0 => finish
  | n + 1 => do
    let _ ← whileAhead (startsPunct ";") (punct ";")
    if ← atEnd then pure ()
    else
      let isLast ← g.statement
      if ← atEnd then pure ()
      else
        require fun _ => !isLast
        statementsFuel n

/-- The statements of a block. -/
def blockContent : Parser Unit := do
  g.statementsFuel ((← ahead).length + 1)

end Grammar

end ServiceStubs.Rust
