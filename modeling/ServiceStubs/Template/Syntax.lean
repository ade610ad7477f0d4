import ServiceStubs.Naming
import ServiceStubs.Template.Basic
import ServiceStubs.Text.Blank

/-!
# Template texts

Tags stand between doubled braces for values, brace and percent sign for repetitions and
choices, brace and hash for comments.  A minus sign at an inner end of a tag trims the blanks
of the text on that side.
-/

namespace ServiceStubs.Template

/-- What a tag says. -/
inductive Tag where
  | value (path : List String)
  | each (item : String) (source : List String)
  | choice (test : List String)
  | otherwise
  | endEach
  | endChoice
  | comment

/-- A stretch of text, or a tag with its trim marks on the left and on the right. -/
inductive Piece where
  | text (s : List Char)
  | tag (trimLeft : Bool) (t : Tag) (trimRight : Bool)

/-- Why a text is no template. -/
inductive SyntaxFault where
  | unclosedTag
  | malformedTag (text : String)
  | unclosedBlock
  | unexpectedTag
  deriving DecidableEq, Repr

/-! ## Tags -/

/-- Blanks that separate the words of a tag. -/
def isTagBlank (c : Char) : Bool :=
  c == ' ' || c == '\t' || c == '\r' || c == '\n'

/-- The words of a tag. -/
def tagWords (s : List Char) : List String :=
  ((Naming.splitAtAny isTagBlank s).filter (!·.isEmpty)).map String.ofList

/-- Words that name no value. -/
def reservedWords : List String :=
  ["for", "in", "if", "elif", "else", "endfor", "endif", "and", "or", "not", "is"]

/-- Reads a path: identifiers with dots between them. -/
def path? (word : String) : Option (List String) :=
  let names := (Naming.splitAtAny (· == '.') word.toList).map String.ofList
  if names.all (fun n => Naming.isIdentifier n || n == "_") && !reservedWords.contains word then
    some names
  else none

/-- Reads what stands inside a statement tag. -/
def statement? (words : List String) : Option Tag :=
  match words with
  | ["for", item, "in", source] =>
    match path? item, path? source with
    | some [item], some source => some (.each item source)
    | _, _ => none
  | ["if", test] => (path? test).map Tag.choice
  | ["else"] => some .otherwise
  | ["endfor"] => some .endEach
  | ["endif"] => some .endChoice
  | _ => none

/-- Reads what stands inside a value tag. -/
def value? (words : List String) : Option Tag :=
  match words with
  | [word] => (path? word).map Tag.value
  | _ => none

/-! ## Pieces -/

/-- Splits off what stands before a closing pair; the rest is what follows the pair. -/
def splitBefore (a b : Char) : List Char → Option (List Char × List Char)
  | c :: d :: rest =>
    if c = a && d = b then some ([], rest)
    else (splitBefore a b (d :: rest)).map fun (inside, after) => (c :: inside, after)
  | _ => none

/-- Takes a trim mark off the front. -/
def trimMark : List Char → Bool × List Char
  | '-' :: rest => (true, rest)
  | s => (false, s)

/-- The trim marks at both ends of the inside of a tag, and what is between them. -/
def trimMarks (inside : List Char) : Bool × List Char × Bool :=
  let (left, inside) := trimMark inside
  let (right, inside) := trimMark inside.reverse
  (left, inside.reverse, right)

/-- The piece of a tag with the given opening character. -/
def tagPiece (opening : Char) (inside : List Char) : Except SyntaxFault Piece :=
  let (left, inside, right) := trimMarks inside
  let tag :=
    if opening = '#' then some Tag.comment
    else if opening = '%' then statement? (tagWords inside)
    else value? (tagWords inside)
  match tag with
  | some t => .ok (.tag left t right)
  | none => .error (.malformedTag (String.ofList inside))

/-- The second character of the pair that closes a tag is always a brace; this is the first. -/
def closingOf (opening : Char) : Char :=
  if opening = '\x7b' then '\x7d' else opening

/-- Whether a character makes a brace before it the opening of a tag. -/
def opensTag (c : Char) : Bool :=
  c == '\x7b' || c == '%' || c == '#'

/-- Adds a character to the text at the front. -/
def pushChar (c : Char) : List Piece → List Piece
  | .text s :: rest => .text (c :: s) :: rest
  | rest => .text [c] :: rest

/-- Cuts a text into pieces. -/
def pieces : Nat → List Char → Except SyntaxFault (List Piece)
  | 0, _ => .ok []
  | fuel + 1, s =>
    match s with
    | [] => .ok []
    | '\x7b' :: c :: rest =>
      if opensTag c then
        match splitBefore (closingOf c) '\x7d' rest with
        | none => .error .unclosedTag
        | some (inside, after) => do
          let piece ← tagPiece c inside
          let more ← pieces fuel after
          return piece :: more
      else (pieces fuel (c :: rest)).map (pushChar '\x7b')
    | c :: rest => (pieces fuel rest).map (pushChar c)

/-! ## Trimming -/

/-- Drops the blanks at the end. -/
def trimEnd (s : List Char) : List Char :=
  (s.reverse.dropWhile Text.isBlank).reverse

/-- Whether a piece trims the text before it. -/
def trimsBefore : List Piece → Bool
  | .tag left _ _ :: _ => left
  | _ => false

/-- Applies the trim marks; the flag says whether the piece before trims to its right. -/
def trim : Bool → List Piece → List Piece
  | _, [] => []
  | after, .text s :: rest =>
    let s := if after then s.dropWhile Text.isBlank else s
    let s := if trimsBefore rest then trimEnd s else s
    .text s :: trim false rest
  | _, .tag left t right :: rest => .tag left t right :: trim right rest

/-! ## Blocks -/

/-- An open block and the parts that stood before it, newest first. -/
inductive Frame where
  | each (item : String) (source : List String) (before : List Part)
  | yes (test : List String) (before : List Part)
  | no (test : List String) (yes : List Part) (before : List Part)

/-- Nests pieces into parts.  `done` holds the parts of the innermost open block, newest
first. -/
def nest : List Frame → List Part → List Piece → Except SyntaxFault (List Part)
  | [], done, [] => .ok done.reverse
  | _ :: _, _, [] => .error .unclosedBlock
  | frames, done, .text s :: rest =>
    nest frames (if s.isEmpty then done else .text (String.ofList s) :: done) rest
  | frames, done, .tag _ t _ :: rest =>
    match t, frames with
    | .comment, frames => nest frames done rest
    | .value path, frames => nest frames (.value path :: done) rest
    | .each item source, frames => nest (.each item source done :: frames) [] rest
    | .choice test, frames => nest (.yes test done :: frames) [] rest
    | .otherwise, .yes test before :: frames =>
      nest (.no test done.reverse before :: frames) [] rest
    | .endEach, .each item source before :: frames =>
      nest frames (.each item source done.reverse :: before) rest
    | .endChoice, .yes test before :: frames =>
      nest frames (.choice test done.reverse [] :: before) rest
    | .endChoice, .no test yes before :: frames =>
      nest frames (.choice test yes done.reverse :: before) rest
    | _, _ => .error .unexpectedTag

/-- Reads a template. -/
def parse (text : String) : Except SyntaxFault (List Part) := do
  let chars := text.toList
  let ps ← pieces (chars.length + 1) chars
  nest [] [] (trim false ps)

/-- Why a text is no template, for a reader. -/
def SyntaxFault.describe : SyntaxFault → String
  | .unclosedTag => "a tag is not closed"
  | .malformedTag text => "malformed tag '" ++ text ++ "'"
  | .unclosedBlock => "a block is not closed"
  | .unexpectedTag => "a tag has no block to belong to"

end ServiceStubs.Template
