import ServiceStubs.Rust.Literal
import ServiceStubs.Rust.Tree
import ServiceStubs.Text.Blank
import ServiceStubs.Text.Quoted

/-!
# Tokens of Rust

A text is cut into tokens: brackets, literals, punctuation, lifetimes and identifiers.  Blanks
and plain comments vanish; a doc comment stands for the attribute it abbreviates.  Block
comments nest.  The tokens are then nested into trees by their brackets.
-/

namespace ServiceStubs.Rust

open ServiceStubs.Text.Identifier (isStart isPart)

/-- A token of the flat sequence. -/
inductive Token where
  | opening (d : Delimiter)
  | closing (d : Delimiter)
  | leaf (t : Tree)

namespace Token

/-! ## Blanks and comments -/

/-- A blank of Rust: White_Space, and the two direction marks. -/
def isGap (c : Char) : Bool :=
  Text.isBlank c || c == '\u200e' || c == '\u200f'

/-- The rest of a line, and what follows from its line feed on.  A carriage return before the
line feed belongs to neither. -/
def splitLine : List Char → List Char × List Char
  | [] => ([], [])
  | '\n' :: s => ([], '\n' :: s)
  | '\r' :: '\n' :: s => ([], '\n' :: s)
  | c :: s =>
    let (line, rest) := splitLine s
    (c :: line, rest)

/-- The content of a block comment, inside so many openers, and what follows its last closer.
The content ends before that closer. -/
def splitBlock : Nat → List Char → Option (List Char × List Char)
  | _, [] => none
  | depth, '/' :: '*' :: s =>
    (splitBlock (depth + 1) s).map fun (inside, rest) => ('/' :: '*' :: inside, rest)
  | 0, '*' :: '/' :: s => some ([], s)
  | depth + 1, '*' :: '/' :: s =>
    (splitBlock depth s).map fun (inside, rest) => ('*' :: '/' :: inside, rest)
  | depth, c :: s => (splitBlock depth s).map fun (inside, rest) => (c :: inside, rest)

/-- Whether a text after two slashes is a plain comment and no doc comment. -/
def isPlainLine : List Char → Bool
  | '/' :: '/' :: _ => true
  | '/' :: _ => false
  | '!' :: _ => false
  | _ => true

/-- Whether a text after a slash and a star is a plain comment and no doc comment. -/
def isPlainBlock : List Char → Bool
  | '*' :: '*' :: _ => true
  | '*' :: '/' :: _ => true
  | '*' :: _ => false
  | '!' :: _ => false
  | _ => true

/-- Passes blanks and plain comments.  A block comment that does not end stays. -/
def skipGaps : Nat → List Char → List Char
  | 0, s => s
  | _ + 1, [] => []
  | fuel + 1, c :: s =>
    if isGap c then skipGaps fuel s
    else match c, s with
      | '/', '/' :: r => if isPlainLine r then skipGaps fuel (splitLine r).2 else c :: s
      | '/', '*' :: r =>
        if isPlainBlock r then
          match splitBlock 0 r with
          | some (_, rest) => skipGaps fuel rest
          | none => c :: s
        else c :: s
      | _, _ => c :: s

/-- Whether every carriage return is followed by a line feed. -/
def hasNoBareReturn : List Char → Bool
  | [] => true
  | '\r' :: '\n' :: s => hasNoBareReturn s
  | '\r' :: _ => false
  | _ :: s => hasNoBareReturn s

/-- A doc comment at the start of a text: whether it documents what encloses it, its content,
and what follows. -/
def docComment? : List Char → Option (Bool × List Char × List Char)
  | '/' :: '/' :: '!' :: s => some (true, splitLine s)
  | '/' :: '*' :: '!' :: s => (splitBlock 0 s).map fun p => (true, p)
  | '/' :: '/' :: '/' :: s =>
    match s with
    | '/' :: _ => none
    | s => some (false, splitLine s)
  | '/' :: '*' :: '*' :: s =>
    match s with
    | '*' :: _ => none
    | s => (splitBlock 0 s).map fun p => (false, p)
  | _ => none

/-- The tokens of the attribute that a doc comment stands for. -/
def docTokens (inner : Bool) (content : List Char) : List Token :=
  [leaf (.punct '#' false)] ++ (if inner then [leaf (.punct '!' false)] else []) ++
    [opening .bracket, leaf (.ident "doc"), leaf (.punct '=' false),
     leaf (.literal (String.ofList (Text.Quoted.encode content))), closing .bracket]

/-! ## Identifiers and punctuation -/

/-- An identifier, without the mark of raw identifiers. -/
def plainIdent? : List Char → Option (List Char × List Char)
  | [] => none
  | c :: s => if isStart c then some (c :: s.takeWhile isPart, s.dropWhile isPart) else none

/-- Words that cannot be raw identifiers. -/
def neverRaw : List (List Char) :=
  [['_'], "super".toList, "self".toList, "Self".toList, "crate".toList]

/-- An identifier, raw or plain. -/
def ident? (s : List Char) : Option (List Char × List Char) :=
  match s with
  | 'r' :: '#' :: r =>
    match plainIdent? r with
    | some (name, rest) =>
      if neverRaw.contains name then none else some ('r' :: '#' :: name, rest)
    | none => none
  | s => plainIdent? s

/-- Beginnings of literals that look like identifiers. -/
def literalStarts : List (List Char) :=
  [['r', '"'], ['r', '#', '"'], ['r', '#', '#'], ['b', '"'], ['b', '\''], ['b', 'r', '"'],
   ['b', 'r', '#'], ['c', '"'], ['c', 'r', '"'], ['c', 'r', '#']]

/-- The punctuation characters. -/
def punctuation : List Char := "~!@#$%^&*-=+|;:,<.>/?'".toList

/-- Whether a punctuation character starts the text; the slash of a comment is none. -/
def startsPunct : List Char → Bool
  | '/' :: '/' :: _ => false
  | '/' :: '*' :: _ => false
  | c :: _ => punctuation.contains c
  | [] => false

/-- Reads a lifetime after its apostrophe. -/
def lifetime? (s : List Char) : Option (Token × List Char) :=
  match ident? s with
  | none => none
  | some (name, rest) =>
    let isRaw := name.take 2 == ['r', '#']
    let found := (leaf (.lifetime (String.ofList ('\'' :: name))), rest)
    match rest with
    | '\'' :: _ => none
    | '#' :: _ => if isRaw then some found else none
    | _ => some found

/-- The bracket of a character. -/
def bracket? (c : Char) : Option Token :=
  if c = '(' then some (opening .parenthesis)
  else if c = ')' then some (closing .parenthesis)
  else if c = '[' then some (opening .bracket)
  else if c = ']' then some (closing .bracket)
  else if c = '\x7b' then some (opening .brace)
  else if c = '\x7d' then some (closing .brace)
  else none

/-- Reads one token at the start of a text that does not start with a gap. -/
def next? (s : List Char) : Option (Token × List Char) :=
  match s with
  | [] => none
  | c :: r =>
    match bracket? c with
    | some t => some (t, r)
    | none =>
      match Literal.pass? s with
      | some rest =>
        some (leaf (.literal (String.ofList (s.take (s.length - rest.length)))), rest)
      | none =>
        if startsPunct s then
          if c = '\'' then lifetime? r else some (leaf (.punct c (startsPunct r)), r)
        else if literalStarts.any (·.isPrefixOf s) then none
        else (ident? s).map fun (name, rest) => (leaf (.ident (String.ofList name)), rest)

/-- Cuts a text into tokens. -/
def scan : Nat → List Char → Option (List Token)
  | 0, _ => none
  | fuel + 1, s =>
    match skipGaps (s.length + 1) s with
    | [] => some []
    | s =>
      match docComment? s with
      | some (inner, content, rest) =>
        if hasNoBareReturn content then
          (scan fuel rest).map fun ts => docTokens inner content ++ ts
        else none
      | none =>
        match next? s with
        | some (t, rest) => (scan fuel rest).map (t :: ·)
        | none => none

/-- Nests tokens into trees.  `open_` holds the open brackets with what stood before each,
newest first; `done` holds the trees of the innermost one, newest first. -/
def nest : List (Delimiter × List Tree) → List Tree → List Token → Option (List Tree)
  | [], done, [] => some done.reverse
  | _ :: _, _, [] => none
  | frames, done, opening d :: ts => nest ((d, done) :: frames) [] ts
  | (d, before) :: frames, done, closing e :: ts =>
    if d = e then nest frames (.group d done.reverse :: before) ts else none
  | [], _, closing _ :: _ => none
  | frames, done, leaf t :: ts => nest frames (t :: done) ts

end Token

/-- The tokens of a text. -/
def tokens? (text : List Char) : Option (List Token) :=
  Token.scan (text.length + 1) text

end ServiceStubs.Rust
