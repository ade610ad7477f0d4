/-!
# Places in a YAML text

A cursor holds what is left of a text and where it starts.  The classes of characters, and the
moves that keep line and column, are here.
-/

namespace ServiceStubs.Yaml

/-! ## Classes of characters -/

/-- A line break. -/
def isBreak (c : Char) : Bool :=
  c == '\n' || c == '\r' || c == '\u0085' || c == '\u2028' || c == '\u2029'

/-- A space or a tab. -/
def isSpacing (c : Char) : Bool := c == ' ' || c == '\t'

/-- A character of the names of anchors, directives and tag handles. -/
def isWordChar (c : Char) : Bool := c.isAlphanum || c == '_' || c == '-'

/-- A character that a text may hold. -/
def isAllowed (c : Char) : Bool :=
  let n := c.toNat
  n == 0x09 || n == 0x0A || n == 0x0D || (0x20 ≤ n && n ≤ 0x7E) || n == 0x85
    || (0xA0 ≤ n && n ≤ 0xD7FF) || (0xE000 ≤ n && n ≤ 0xFFFD)
    || 0x10000 ≤ n

/-- Whether a word ends here: at a space, a tab, a line break or the end of the text. -/
def endsWord : List Char → Bool
  | [] => true
  | c :: _ => isSpacing c || isBreak c

/-- Whether a line ends here. -/
def endsLine : List Char → Bool
  | [] => true
  | c :: _ => isBreak c

/-- Whether three dashes stand here as a word. -/
def startsDashes : List Char → Bool
  | '-' :: '-' :: '-' :: s => endsWord s
  | _ => false

/-- Whether three dots stand here as a word. -/
def startsDots : List Char → Bool
  | '.' :: '.' :: '.' :: s => endsWord s
  | _ => false

/-! ## Cursors -/

/-- A place in a text. -/
structure Cursor where
  rest : List Char
  index : Nat
  line : Nat
  column : Nat

namespace Cursor

/-- The start of a text. -/
def ofText (text : List Char) : Cursor := ⟨text, 0, 0, 0⟩

/-- Passes characters of one line. -/
def advance (n : Nat) (c : Cursor) : Cursor :=
  ⟨c.rest.drop n, c.index + n, c.line, c.column + n⟩

/-- Passes characters of one class, none of them a line break. -/
def skipWhile (p : Char → Bool) (c : Cursor) : Cursor :=
  c.advance (c.rest.takeWhile p).length

/-- Passes the rest of a line. -/
def skipLineRest (c : Cursor) : Cursor := c.skipWhile (!isBreak ·)

/-- Passes a line break; a carriage return and a line feed are one. -/
def nextLine (c : Cursor) : Cursor :=
  match c.rest with
  | '\r' :: '\n' :: s => ⟨s, c.index + 2, c.line + 1, 0⟩
  | s => ⟨s.drop 1, c.index + 1, c.line + 1, 0⟩

/-- Passes a line break if there is one. -/
def nextLine? (c : Cursor) : Cursor :=
  match c.rest with
  | d :: _ => if isBreak d then c.nextLine else c
  | [] => c

/-- The line break at a cursor as content: the separators of lines and paragraphs stay, any
other is a line feed. -/
def breakText (c : Cursor) : List Char :=
  match c.rest with
  | d :: _ =>
    if d == '\u2028' || d == '\u2029' then [d] else if isBreak d then ['\n'] else []
  | [] => []

/-- Whether a marker of document limits stands at the start of a line. -/
def atMarker (c : Cursor) : Bool :=
  c.column == 0 && (startsDashes c.rest || startsDots c.rest)

/-- Passes spacing and a comment up to the end of the line, and the line break.  Nothing else
may stand there. -/
def finishLine (c : Cursor) : Option Cursor :=
  let c := c.skipWhile isSpacing
  let c := match c.rest with
    | '#' :: _ => c.skipLineRest
    | _ => c
  if endsLine c.rest then some c.nextLine? else none

end Cursor

end ServiceStubs.Yaml
