import ServiceStubs.Yaml.Property
import ServiceStubs.Yaml.Scalar

/-!
# The layout of a YAML text

A text is cut into tokens from left to right.  A greater column opens a block collection and a
smaller one closes it.  A key is known as such only at the colon after it, so each place that a
key may start at is remembered until the line ends, and the token for the key is put there in
hindsight.
-/

namespace ServiceStubs.Yaml

/-- A place where a key may have started. -/
structure KeyPlace where
  /-- Whether only a key can stand there. -/
  isRequired : Bool
  /-- How many tokens stand before it. -/
  before : Nat
  index : Nat
  line : Nat
  column : Nat

/-- How far a text has been cut. -/
structure Layout where
  cursor : Cursor
  /-- One more than the column of the innermost block collection; zero outside all. -/
  margin : Nat
  /-- The margins of the collections around it, innermost first. -/
  outer : List Nat
  /-- Whether a key may start here. -/
  keyAllowed : Bool
  /-- The place of a possible key for each open flow collection, innermost first, and for the
  block around them. -/
  keys : List (Option KeyPlace)
  /-- The tokens, newest first. -/
  tokens : List Token

namespace Layout

/-- The start of a text. -/
def ofText (text : List Char) : Layout := ⟨.ofText text, 0, [], true, [none], []⟩

/-- Whether a flow collection is open. -/
def inFlow (l : Layout) : Bool := 1 < l.keys.length

/-- Adds a token. -/
def emit (t : Token) (l : Layout) : Layout := { l with tokens := t :: l.tokens }

/-- Puts a token after the first so many. -/
def insert (before : Nat) (t : Token) (l : Layout) : Layout :=
  let n := l.tokens.length - before
  { l with tokens := l.tokens.take n ++ t :: l.tokens.drop n }

/-- Passes characters of one line. -/
def advance (n : Nat) (l : Layout) : Layout := { l with cursor := l.cursor.advance n }

/-! ## Indentation -/

/-- Opens a block collection at a column beyond the innermost one. -/
def openBlock (column before : Nat) (t : Token) (l : Layout) : Layout :=
  if l.inFlow || column < l.margin then l
  else insert before t { l with margin := column + 1, outer := l.margin :: l.outer }

/-- Opens a block collection at the cursor. -/
def openHere (t : Token) (l : Layout) : Layout :=
  l.openBlock l.cursor.column l.tokens.length t

/-- Closes the block collections with a margin beyond the given one. -/
def closeBlocks (margin : Nat) (l : Layout) : Layout :=
  if l.inFlow then l
  else
    let closed := (l.margin :: l.outer).takeWhile (margin < ·)
    match (l.margin :: l.outer).drop closed.length with
    | m :: outer =>
      { l with
        margin := m, outer
        tokens := List.replicate closed.length .blockEnd ++ l.tokens }
    | [] => l

/-! ## Places of keys -/

/-- Gives up the innermost place of a key.  That is an error if a key is required there. -/
def dropKey (l : Layout) : Option Layout :=
  match l.keys with
  | some k :: ks => if k.isRequired then none else some { l with keys := none :: ks }
  | _ => some l

/-- Remembers that a key may start here. -/
def markKey (l : Layout) : Option Layout :=
  if l.keyAllowed then do
    let l ← l.dropKey
    let c := l.cursor
    let place : KeyPlace :=
      { isRequired := !l.inFlow && l.margin == c.column + 1
        before := l.tokens.length
        index := c.index, line := c.line, column := c.column }
    return { l with keys := some place :: l.keys.drop 1 }
  else some l

/-- Whether a place is on an earlier line or too far back. -/
def isStale (c : Cursor) (k : KeyPlace) : Bool :=
  k.line < c.line || k.index + 1024 < c.index

/-- Gives up the places that are too far back. -/
def dropStaleKeys (l : Layout) : Option Layout := do
  let keys ← l.keys.mapM fun k => match k with
    | some k =>
      if isStale l.cursor k then if k.isRequired then none else some none else some (some k)
    | none => some none
  return { l with keys }

/-! ## Gaps between tokens -/

/-- Passes spacing, comments and line breaks.  Tabs are passed where no key may start. -/
def skipGaps : Nat → Layout → Layout
  | 0, l => l
  | n + 1, l =>
    let tabs := l.inFlow || !l.keyAllowed
    let c := l.cursor.skipWhile fun d => d == ' ' || tabs && d == '\t'
    let c := match c.rest with
      | '#' :: _ => c.skipLineRest
      | _ => c
    match c.rest with
    | d :: _ =>
      if isBreak d then
        skipGaps n { l with cursor := c.nextLine, keyAllowed := l.keyAllowed || !l.inFlow }
      else { l with cursor := c }
    | [] => { l with cursor := c }

/-! ## Tokens by their first character -/

/-- The end of the text. -/
def finish (l : Layout) : Option Layout := (l.closeBlocks 0).dropKey

/-- A directive. -/
def directive (l : Layout) : Option Layout := do
  let l ← (l.closeBlocks 0).dropKey
  let (t, cursor) ← directive? (l.cursor.advance 1)
  return { l.emit t with cursor, keyAllowed := false }

/-- A marker of document limits. -/
def marker (t : Token) (l : Layout) : Option Layout := do
  let l ← (l.closeBlocks 0).dropKey
  return { (l.emit t).advance 3 with keyAllowed := false }

/-- The start of a flow collection. -/
def openFlow (t : Token) (l : Layout) : Option Layout := do
  let l ← l.markKey
  return { (l.emit t).advance 1 with keys := none :: l.keys, keyAllowed := true }

/-- The end of a flow collection. -/
def closeFlow (t : Token) (l : Layout) : Option Layout := do
  let l ← l.dropKey
  let keys := if l.inFlow then l.keys.drop 1 else l.keys
  return { (l.emit t).advance 1 with keys, keyAllowed := false }

/-- A comma between the entries of a flow collection. -/
def flowEntry (l : Layout) : Option Layout := do
  let l ← l.dropKey
  return { (l.emit .flowEntry).advance 1 with keyAllowed := true }

/-- The dash before an entry of a block sequence. -/
def blockEntry (l : Layout) : Option Layout :=
  if !l.inFlow && !l.keyAllowed then none
  else do
    let l ← (l.openHere .blockSequence).dropKey
    return { (l.emit .blockEntry).advance 1 with keyAllowed := true }

/-- The question mark before a key. -/
def explicitKey (l : Layout) : Option Layout :=
  if !l.inFlow && !l.keyAllowed then none
  else do
    let l ← (l.openHere .blockMapping).dropKey
    return { (l.emit .key).advance 1 with keyAllowed := !l.inFlow }

/-- The colon before a value. -/
def value (l : Layout) : Option Layout :=
  match l.keys with
  | some k :: ks =>
    let l := (l.insert k.before .key).openBlock k.column k.before .blockMapping
    some { (l.emit .value).advance 1 with keys := none :: ks, keyAllowed := false }
  | _ =>
    if !l.inFlow && !l.keyAllowed then none
    else
      let l := l.openHere .blockMapping
      some { (l.emit .value).advance 1 with keyAllowed := !l.inFlow }

/-- An anchor or an alias. -/
def named (make : String → Token) (l : Layout) : Option Layout := do
  let l ← l.markKey
  let (name, cursor) ← anchorName? (l.cursor.advance 1)
  return { l.emit (make name) with cursor, keyAllowed := false }

/-- A tag. -/
def tagged (l : Layout) : Option Layout := do
  let l ← l.markKey
  let (t, cursor) ← tag? l.inFlow l.cursor
  return { l.emit t with cursor, keyAllowed := false }

/-- A block scalar. -/
def block (literal : Bool) (l : Layout) : Option Layout := do
  let l ← l.dropKey
  let (text, cursor) ← blockScalar literal l.margin (l.cursor.advance 1)
  return { l.emit (.scalar (String.ofList text) false) with cursor, keyAllowed := true }

/-- A quoted scalar. -/
def quotedScalar (quote : Char) (l : Layout) : Option Layout := do
  let l ← l.markKey
  let c := l.cursor.advance 1
  let (text, cursor) ← quoted quote (c.rest.length + 1) [] c
  return { l.emit (.scalar (String.ofList text) false) with cursor, keyAllowed := false }

/-- A plain scalar. -/
def plainScalar (l : Layout) : Option Layout := do
  let l ← l.markKey
  let c := l.cursor
  let (text, cursor, keyAllowed) ← plain l.inFlow l.margin (c.rest.length + 1) [] .empty c
  return { l.emit (.scalar (String.ofList text) true) with cursor, keyAllowed }

/-- Whether a plain scalar may start with a character, given what follows it. -/
def startsPlain (inFlow : Bool) (d : Char) (s : List Char) : Bool :=
  !(isSpacing d || isBreak d || "-?:,[]\x7b\x7d#&*!|>'\"%@`".toList.contains d)
    || d == '-' && !(s.take 1).any isSpacing
    || !inFlow && (d == '?' || d == ':') && !endsWord s

/-- Cuts the next token, whose first character and the rest are given. -/
def nextToken (d : Char) (s : List Char) (l : Layout) : Option Layout :=
  let atStart := l.cursor.column == 0
  if atStart && d == '%' then l.directive
  else if atStart && startsDashes (d :: s) then l.marker .documentStart
  else if atStart && startsDots (d :: s) then l.marker .documentEnd
  else if d == '[' then l.openFlow .flowSequence
  else if d == '\x7b' then l.openFlow .flowMapping
  else if d == ']' then l.closeFlow .flowSequenceEnd
  else if d == '\x7d' then l.closeFlow .flowMappingEnd
  else if d == ',' then l.flowEntry
  else if d == '-' && endsWord s then l.blockEntry
  else if d == '?' && (l.inFlow || endsWord s) then l.explicitKey
  else if d == ':' && (l.inFlow || endsWord s) then l.value
  else if d == '*' then l.named .reference
  else if d == '&' then l.named .anchor
  else if d == '!' then l.tagged
  else if d == '|' && !l.inFlow then l.block true
  else if d == '>' && !l.inFlow then l.block false
  else if d == '\'' || d == '"' then l.quotedScalar d
  else if startsPlain l.inFlow d s then l.plainScalar
  else none

/-- Cuts the rest of a text. -/
def run : Nat → Layout → Option (List Token)
  | 0, _ => none
  | n + 1, l => do
    let l ← (l.skipGaps (l.cursor.rest.length + 1)).dropStaleKeys
    let l := l.closeBlocks (l.cursor.column + 1)
    match l.cursor.rest with
    | [] => return (← l.finish).tokens.reverse
    | d :: s => run n (← l.nextToken d s)

end Layout

/-- The tokens of a text.  A mark of byte order may come first. -/
def tokens? (text : List Char) : Option (List Token) :=
  let text := match text with
    | '\ufeff' :: s => s
    | s => s
  if text.all isAllowed then Layout.run (text.length + 2) (.ofText text) else none

end ServiceStubs.Yaml
