import ServiceStubs.Text.Blank

/-!
# Text inside comments

Three positions take foreign text: a block comment, the rest of a line comment, and a code
span of a doc comment.  Each has a sanitizer after which the text cannot leave its position.
Block comments nest, so a stray opener is as harmful as a stray closer.
-/

namespace ServiceStubs.Text.Comment

/-- The opening line of an embedded model. -/
def blockBegin : String := "===JSON BEGIN==="

/-- The closing line of an embedded model. -/
def blockEnd : String := "===JSON END==="

/-- A double quote becomes an apostrophe. -/
def softenQuote (c : Char) : Char :=
  if c = '"' then '\'' else c

/-- Whether two adjacent characters would open or close a block comment. -/
def isDelimiterPair (a b : Char) : Bool :=
  (a = '*' && b = '/') || (a = '/' && b = '*')

/-- Puts a space between every two adjacent characters that would delimit a comment. -/
def separate : List Char → List Char
  | [] => []
  | [a] => [a]
  | a :: b :: rest =>
    if isDelimiterPair a b then a :: ' ' :: separate (b :: rest) else a :: separate (b :: rest)

/-- The text with softened quotes and no comment delimiter left in it. -/
def escapeBlock (s : String) : String :=
  String.ofList (separate (s.toList.map softenQuote))

/-- A block comment that carries the text between its marker lines. -/
def embed (s : String) : String :=
  "/* Auto Generated\n" ++ blockBegin ++ "\n" ++ escapeBlock s ++ "\n" ++ blockEnd ++ "\n*/"

/-- Words joined by single spaces, a control character counting as a blank. -/
def joinLine (s : List Char) : List Char :=
  [' '].intercalate (words (s.map fun c => if isControl c then ' ' else c))

/-- The text on one line, safe in a line comment. -/
def singleLine (s : String) : String :=
  String.ofList (joinLine s.toList)

/-- A backtick, which would end a code span, becomes an apostrophe. -/
def softenBacktick (c : Char) : Char :=
  if c = '\x60' then '\'' else c

/-- The text on one line and safe in a code span. -/
def codeSpan (s : String) : String :=
  String.ofList ((joinLine s.toList).map softenBacktick)

end ServiceStubs.Text.Comment
