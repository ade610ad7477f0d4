import ServiceStubs.Yaml.Cursor

/-!
# YAML scalars

Plain and quoted scalars may go on over several lines: a single line break between words is a
space, and of several the first vanishes.  Block scalars keep their lines, or fold them in the
same way except next to lines that start with spacing.
-/

namespace ServiceStubs.Yaml

/-! ## Gaps between words -/

/-- The spacing and the line breaks between two words of a scalar. -/
structure Gap where
  /-- The spacing before any line break. -/
  spacing : List Char
  /-- The first line break. -/
  first : List Char
  /-- The line breaks after it. -/
  more : List Char
  /-- Whether there is a line break, be it one that is not content. -/
  isBroken : Bool

namespace Gap

/-- No gap. -/
def empty : Gap := ⟨[], [], [], false⟩

/-- A gap that starts with a line break that is no content. -/
def escaped : Gap := ⟨[], [], [], true⟩

/-- The first line break and the others, folded. -/
def fold (first more : List Char) : List Char :=
  if first = ['\n'] then if more.isEmpty then [' '] else more else first ++ more

/-- The content that a gap stands for. -/
def text (g : Gap) : List Char :=
  if g.isBroken then fold g.first g.more else g.spacing

/-- Passes a gap.  After a line break, a tab before the given column is an error. -/
def read (margin : Nat) : Nat → Gap → Cursor → Option (Gap × Cursor)
  | 0, g, c => some (g, c)
  | n + 1, g, c =>
    match c.rest with
    | [] => some (g, c)
    | d :: _ =>
      if isSpacing d then
        if g.isBroken then
          if d == '\t' && c.column < margin then none else read margin n g (c.advance 1)
        else read margin n { g with spacing := g.spacing ++ [d] } (c.advance 1)
      else if isBreak d then
        if g.isBroken then read margin n { g with more := g.more ++ c.breakText } c.nextLine
        else read margin n ⟨[], c.breakText, [], true⟩ c.nextLine
      else some (g, c)

end Gap

/-! ## Plain scalars -/

/-- A sign that ends a plain scalar inside flow collections. -/
def isFlowSign (c : Char) : Bool :=
  c == ',' || c == '[' || c == ']' || c == '\x7b' || c == '\x7d'

/-- The characters of a plain scalar up to a gap or an indicator.  Inside flow collections a
colon may not touch the sign of a collection. -/
def plainWord (inFlow : Bool) : List Char → Option (List Char)
  | [] => some []
  | c :: s =>
    if isSpacing c || isBreak c then some []
    else if inFlow && c == ':' && (s.take 1).any (fun d => isFlowSign d || d == '?') then none
    else if c == ':' && endsWord s || inFlow && isFlowSign c then some []
    else (plainWord inFlow s).map (c :: ·)

/-- A plain scalar: its text, where it ends, and whether a line break was passed at its end.
Outside flow collections it ends before a line that is not indented enough. -/
def plain (inFlow : Bool) (margin : Nat) :
    Nat → List Char → Gap → Cursor → Option (List Char × Cursor × Bool)
  | 0, text, g, c => some (text, c, g.isBroken)
  | n + 1, text, g, c =>
    if c.atMarker || c.rest.head? == some '#' then some (text, c, g.isBroken)
    else do
      let word ← plainWord inFlow c.rest
      let text := if word.isEmpty then text else text ++ g.text ++ word
      let g := if word.isEmpty then g else .empty
      let c := c.advance word.length
      if c.rest.isEmpty || !endsWord c.rest then some (text, c, g.isBroken)
      else
        let (g, c) ← g.read margin (c.rest.length + 1) c
        if !inFlow && c.column < margin then some (text, c, g.isBroken)
        else plain inFlow margin n text g c

/-! ## Quoted scalars -/

/-- The value of a hexadecimal digit. -/
def hexDigit? (c : Char) : Option Nat :=
  if '0' ≤ c && c ≤ '9' then some (c.toNat - '0'.toNat)
  else if 'a' ≤ c && c ≤ 'f' then some (c.toNat - 'a'.toNat + 10)
  else if 'A' ≤ c && c ≤ 'F' then some (c.toNat - 'A'.toNat + 10)
  else none

/-- The value of so many hexadecimal digits. -/
def hexValue? (digits : Nat) (s : List Char) : Option Nat :=
  if s.length < digits then none
  else (s.take digits).foldlM (fun n c => (hexDigit? c).map (n * 16 + ·)) 0

/-- The character of an escape by letter. -/
def letterEscape? (c : Char) : Option Char :=
  [('0', '\x00'), ('a', '\x07'), ('b', '\x08'), ('t', '\t'), ('\t', '\t'), ('n', '\n'),
   ('v', '\x0b'), ('f', '\x0c'), ('r', '\r'), ('e', '\x1b'), (' ', ' '), ('"', '"'),
   ('/', '/'), ('\\', '\\'), ('N', '\u0085'), ('_', '\u00a0'), ('L', '\u2028'),
   ('P', '\u2029')].lookup c

/-- The number of digits of an escape by code point. -/
def escapeDigits? (c : Char) : Option Nat :=
  [('x', 2), ('u', 4), ('U', 8)].lookup c

/-- Reads an escape after its backslash: the character, and how many characters it takes. -/
def escape? : List Char → Option (Char × Nat)
  | [] => none
  | c :: s =>
    match letterEscape? c with
    | some d => some (d, 1)
    | none => do
      let digits ← escapeDigits? c
      let n ← hexValue? digits s
      if n.isValidChar then some (Char.ofNat n, digits + 1) else none

/-- Reads the characters of a quoted scalar up to a gap or the closing quote: the characters,
where they end, and whether an escaped line break follows. -/
def quotedWord (quote : Char) : Nat → Cursor → Option (List Char × Cursor × Bool)
  | 0, c => some ([], c, false)
  | n + 1, c =>
    match c.rest with
    | [] => some ([], c, false)
    | d :: s =>
      if isSpacing d || isBreak d then some ([], c, false)
      else if d == quote then
        if quote == '\'' && s.head? == some '\'' then do
          let (text, c, broken) ← quotedWord quote n (c.advance 2)
          return ('\'' :: text, c, broken)
        else some ([], c, false)
      else if quote == '"' && d == '\\' then
        if (s.take 1).any isBreak then some ([], (c.advance 1).nextLine, true)
        else do
          let (e, taken) ← escape? s
          let (text, c, broken) ← quotedWord quote n (c.advance (taken + 1))
          return (e :: text, c, broken)
      else do
        let (text, c, broken) ← quotedWord quote n (c.advance 1)
        return (d :: text, c, broken)

/-- Reads a quoted scalar after its opening quote, up to and with the closing one. -/
def quoted (quote : Char) : Nat → List Char → Cursor → Option (List Char × Cursor)
  | 0, _, _ => none
  | n + 1, text, c =>
    if c.atMarker || c.rest.isEmpty then none
    else do
      let (word, c, broken) ← quotedWord quote (c.rest.length + 1) c
      let text := text ++ word
      if c.rest.head? == some quote then some (text, c.advance 1)
      else
        let start := if broken then Gap.escaped else .empty
        let (g, c) ← start.read 0 (c.rest.length + 1) c
        quoted quote n (text ++ g.text) c

/-! ## Block scalars -/

/-- What is kept of the line breaks at the end of a block scalar. -/
inductive Chomping where
  | strip
  | clip
  | keep
  deriving DecidableEq

/-- Reads the sign for the line breaks at the end, if it is there. -/
def chomping? (c : Cursor) : Chomping × Cursor :=
  match c.rest with
  | '+' :: _ => (.keep, c.advance 1)
  | '-' :: _ => (.strip, c.advance 1)
  | _ => (.clip, c)

/-- Reads the number of columns that a block scalar is indented by, if it is there; zero means
that it is not. -/
def indentation? (c : Cursor) : Option (Nat × Cursor) :=
  match c.rest with
  | d :: _ =>
    if d == '0' then none
    else if d.isDigit then some (d.toNat - '0'.toNat, c.advance 1)
    else some (0, c)
  | [] => some (0, c)

/-- Reads the signs after the indicator of a block scalar, in either order. -/
def blockSigns (c : Cursor) : Option (Chomping × Nat × Cursor) :=
  match chomping? c with
  | (.clip, c) => do
    let (columns, c) ← indentation? c
    if columns = 0 then return (.clip, 0, c)
    else
      let (chomping, c) := chomping? c
      return (chomping, columns, c)
  | (chomping, c) => do
    let (columns, c) ← indentation? c
    return (chomping, columns, c)

/-- Passes empty lines and the indentation of the next line: the line breaks passed, and the
greatest column reached.  An indentation of zero is not known yet. -/
def blockBreaks (indent : Nat) :
    Nat → List Char → Nat → Cursor → Option (List Char × Nat × Cursor)
  | 0, breaks, reached, c => some (breaks, reached, c)
  | n + 1, breaks, reached, c =>
    let spaces := (c.rest.takeWhile (· == ' ')).length
    let c := c.advance (if indent = 0 then spaces else min spaces (indent - c.column))
    let reached := max reached c.column
    match c.rest with
    | d :: _ =>
      if d == '\t' && (indent = 0 || c.column < indent) then none
      else if isBreak d then
        blockBreaks indent n (breaks ++ c.breakText) reached c.nextLine
      else some (breaks, reached, c)
    | [] => some (breaks, reached, c)

/-- What has been read of a block scalar. -/
structure BlockText where
  text : List Char
  /-- The line break after the last line. -/
  last : List Char
  /-- The line breaks after that. -/
  breaks : List Char
  /-- Whether the last line starts with spacing. -/
  wasSpaced : Bool

/-- The lines of a block scalar, up to one that is not indented enough. -/
def blockLines (literal : Bool) (indent : Nat) : Nat → BlockText → Cursor →
    Option (BlockText × Cursor)
  | 0, b, c => some (b, c)
  | n + 1, b, c =>
    if c.column = indent && !c.rest.isEmpty then do
      let isSpaced := (c.rest.take 1).any isSpacing
      let joint :=
        if !literal && !b.wasSpaced && !isSpaced then Gap.fold b.last b.breaks
        else b.last ++ b.breaks
      let line := c.rest.takeWhile (!isBreak ·)
      let c := c.advance line.length
      let last := c.breakText
      let (breaks, _, c) ← blockBreaks indent (c.rest.length + 1) [] 0 c.nextLine?
      blockLines literal indent n ⟨b.text ++ joint ++ line, last, breaks, isSpaced⟩ c
    else some (b, c)

/-- Reads a block scalar after its indicator.  Without a number, it is indented as its first
line that is not empty, but more than what it stands in. -/
def blockScalar (literal : Bool) (margin : Nat) (c : Cursor) : Option (List Char × Cursor) := do
  let (chomping, columns, c) ← blockSigns c
  let c ← c.finishLine
  let given := if columns = 0 then 0 else margin - 1 + columns
  let (breaks, reached, c) ← blockBreaks given (c.rest.length + 1) [] 0 c
  let indent := if given = 0 then max reached (max margin 1) else given
  let (b, c) ← blockLines literal indent (c.rest.length + 1) ⟨[], [], breaks, false⟩ c
  let tail := match chomping with
    | .strip => []
    | .clip => b.last
    | .keep => b.last ++ b.breaks
  return (b.text ++ tail, c)

end ServiceStubs.Yaml
