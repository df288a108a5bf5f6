import FirmwareStamp.Text.GraphemeExtend

/-!
Errors of the JSON reader and their text. An error names its cause and where it was
found: the number of bytes still unread, and whether it is reported at the next byte
rather than after the last byte read. The text adds the line and the byte column of
that place, counting columns from the start of the line.
-/

namespace FirmwareStamp.Json

/-- What a typed reader found where it wanted something else. -/
inductive Found where
  | bool (b : Bool)
  | unsigned (n : Nat)
  | signed (n : Int)
  | float (text : String)
  | str (s : String)
  | null
  | seq
  | map
deriving DecidableEq, Repr

/-- Hexadecimal digits of a number, lowercase, without leading zeros. -/
def hexText (n : Nat) : String := String.ofList (Nat.toDigits 16 n)

/-- A character inside a quoted text: the usual backslash escapes, and `\u{..}` for a
character that extends a grapheme (it would join the one before it) or is not printable. -/
def quoteChar (c : Char) : String :=
  if c = '\x00' then "\\0"
  else if c = '\t' then "\\t"
  else if c = '\r' then "\\r"
  else if c = '\n' then "\\n"
  else if c = '\\' then "\\\\"
  else if c = '"' then "\\\""
  else if Text.isGraphemeExtend c || !Text.isPrintable c then "\\u\x7b" ++ hexText c.toNat ++ "\x7d"
  else c.toString

def quoteText (s : String) : String :=
  "\"" ++ String.join (s.toList.map quoteChar) ++ "\""

def Found.describe : Found → String
  | .bool b => "boolean `" ++ (if b then "true" else "false") ++ "`"
  | .unsigned n => "integer `" ++ toString n ++ "`"
  | .signed n => "integer `" ++ toString n ++ "`"
  | .float text => "floating point `" ++ text ++ "`"
  | .str s => "string " ++ quoteText s
  | .null => "null"
  | .seq => "sequence"
  | .map => "map"

/-- Why reading failed. -/
inductive Problem where
  | eofInList
  | eofInObject
  | eofInString
  | eofInValue
  | expectedColon
  | expectedListCommaOrEnd
  | expectedObjectCommaOrEnd
  | expectedIdent
  | expectedValue
  | invalidEscape
  | invalidNumber
  | numberOutOfRange
  | controlCharacterInString
  | keyMustBeString
  | loneLeadingSurrogate
  | trailingComma
  | trailingCharacters
  | unexpectedEndOfHexEscape
  | recursionLimitExceeded
  | invalidType (found : Found) (expected : String)
  | invalidValue (found : Found) (expected : String)
  | invalidLength (count : Nat) (expected : String)
  | missingField (name : String)
  | duplicateField (name : String)
deriving DecidableEq, Repr

def Problem.message : Problem → String
  | .eofInList => "EOF while parsing a list"
  | .eofInObject => "EOF while parsing an object"
  | .eofInString => "EOF while parsing a string"
  | .eofInValue => "EOF while parsing a value"
  | .expectedColon => "expected `:`"
  | .expectedListCommaOrEnd => "expected `,` or `]`"
  | .expectedObjectCommaOrEnd => "expected `,` or `\x7d`"
  | .expectedIdent => "expected ident"
  | .expectedValue => "expected value"
  | .invalidEscape => "invalid escape"
  | .invalidNumber => "invalid number"
  | .numberOutOfRange => "number out of range"
  | .controlCharacterInString => "control character (\\u0000-\\u001F) found while parsing a string"
  | .keyMustBeString => "key must be a string"
  | .loneLeadingSurrogate => "lone leading surrogate in hex escape"
  | .trailingComma => "trailing comma"
  | .trailingCharacters => "trailing characters"
  | .unexpectedEndOfHexEscape => "unexpected end of hex escape"
  | .recursionLimitExceeded => "recursion limit exceeded"
  | .invalidType found expected => "invalid type: " ++ found.describe ++ ", expected " ++ expected
  | .invalidValue found expected => "invalid value: " ++ found.describe ++ ", expected " ++ expected
  | .invalidLength count expected =>
    "invalid length " ++ toString count ++ ", expected " ++ expected
  | .missingField name => "missing field `" ++ name ++ "`"
  | .duplicateField name => "duplicate field `" ++ name ++ "`"

/-- A reading error and the place it is reported at. -/
structure Error where
  problem : Problem
  remaining : Nat
  ahead : Bool
deriving DecidableEq, Repr

/-- The byte offset an error is reported at, in an input of `total` bytes. -/
def Error.offset (e : Error) (total : Nat) : Nat :=
  let consumed := total - e.remaining
  if e.ahead then min total (consumed + 1) else consumed

/-- Line (from 1) and byte column (from 0) of an offset: the column counts the bytes
between the last newline before the offset and the offset. -/
def lineColumn (input : List UInt8) (offset : Nat) : Nat × Nat :=
  let before := input.take offset
  let lineStart := before.length - (before.reverse.takeWhile (· != 10)).length
  ((input.take lineStart).count 10 + 1, offset - lineStart)

def Error.render (e : Error) (input : List UInt8) : String :=
  let (line, column) := lineColumn input (e.offset input.length)
  e.problem.message ++ " at line " ++ toString line ++ " column " ++ toString column

end FirmwareStamp.Json
