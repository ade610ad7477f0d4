/-!
# What can be wrong with a JSON document

A failure is a cause at a place.  While a document is read the place is the number of bytes
still unread; the line and the column are worked out once, from the whole text.
-/

namespace ServiceStubs.Json

/-- What stands where another kind of value was wanted. -/
inductive Found where
  | null
  | boolean (b : Bool)
  | integer (i : Int)
  | decimal (text : String)
  | string (shown : String)
  | sequence
  | map
  deriving DecidableEq, Repr

/-- Why a document is refused. -/
inductive Cause where
  | endInValue
  | endInString
  | endInList
  | endInObject
  | expectedIdent
  | expectedValue
  | expectedColon
  | expectedListEnd
  | expectedObjectEnd
  | keyNotString
  | trailingComma
  | trailingCharacters
  | controlCharacter
  | invalidEscape
  | loneSurrogate
  | unfinishedPair
  | invalidNumber
  | numberOutOfRange
  | tooDeep
  | wrongType (found : Found) (expected : String)
  | unknownVariant (name : String) (known : List String)
  | duplicateField (key : String)
  | missingField (key : String)
  | wrongLength (count : Nat) (record : String) (size : Nat)
  deriving DecidableEq, Repr

/-- A cause and the number of bytes that were unread at it. -/
structure Failure where
  cause : Cause
  unread : Nat
  deriving DecidableEq, Repr

/-- A failure placed in its document. -/
structure Error where
  cause : Cause
  line : Nat
  column : Nat
  deriving DecidableEq, Repr

/-- The wording of a found value. -/
def Found.describe : Found → String
  | .null => "null"
  | .boolean true => "boolean `true`"
  | .boolean false => "boolean `false`"
  | .integer i => "integer `" ++ toString i ++ "`"
  | .decimal text => "floating point `" ++ text ++ "`"
  | .string shown => "string " ++ shown
  | .sequence => "sequence"
  | .map => "map"

/-- The wording of a cause. -/
def Cause.describe : Cause → String
  | .endInValue => "EOF while parsing a value"
  | .endInString => "EOF while parsing a string"
  | .endInList => "EOF while parsing a list"
  | .endInObject => "EOF while parsing an object"
  | .expectedIdent => "expected ident"
  | .expectedValue => "expected value"
  | .expectedColon => "expected `:`"
  | .expectedListEnd => "expected `,` or `]`"
  | .expectedObjectEnd => "expected `,` or `\x7d`"
  | .keyNotString => "key must be a string"
  | .trailingComma => "trailing comma"
  | .trailingCharacters => "trailing characters"
  | .controlCharacter => "control character (\\u0000-\\u001F) found while parsing a string"
  | .invalidEscape => "invalid escape"
  | .loneSurrogate => "lone leading surrogate in hex escape"
  | .unfinishedPair => "unexpected end of hex escape"
  | .invalidNumber => "invalid number"
  | .numberOutOfRange => "number out of range"
  | .tooDeep => "recursion limit exceeded"
  | .wrongType found expected => "invalid type: " ++ found.describe ++ ", expected " ++ expected
  | .unknownVariant name known =>
    "unknown variant `" ++ name ++ "`, expected one of " ++
      ", ".intercalate (known.map fun k => "`" ++ k ++ "`")
  | .duplicateField key => "duplicate field `" ++ key ++ "`"
  | .missingField key => "missing field `" ++ key ++ "`"
  | .wrongLength count record size =>
    "invalid length " ++ toString count ++ ", expected " ++ record ++ " with " ++ toString size ++
      (if size = 1 then " element" else " elements")

/-- The wording of an error. -/
def Error.message (e : Error) : String :=
  e.cause.describe ++ " at line " ++ toString e.line ++ " column " ++ toString e.column

/-- The number of bytes of a text. -/
def byteLength : List Char → Nat
  | [] => 0
  | c :: cs => c.utf8Size + byteLength cs

/-- The line and column of a byte index: one more than the line feeds before it, and the bytes
since the last of them. -/
def locateFrom (line column : Nat) : List Char → Nat → Nat × Nat
  | [], i => (line, column + i)
  | c :: rest, i =>
    if i < c.utf8Size then (line, column + i)
    else if c = '\n' then locateFrom (line + 1) 0 rest (i - 1)
    else locateFrom line (column + c.utf8Size) rest (i - c.utf8Size)

/-- Places a failure in its text. -/
def Failure.locate (f : Failure) (text : List Char) : Error :=
  let (line, column) := locateFrom 1 0 text (byteLength text - f.unread)
  ⟨f.cause, line, column⟩

end ServiceStubs.Json
