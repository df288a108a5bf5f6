import FirmwareStamp.Toml.Problem
import FirmwareStamp.Toml.Token

/-!
Decoding the text of TOML strings, keys and comments. A quoted string is checked for its
closing delimiter first and then character by character: basic strings take escapes
(`\b \t \n \f \r \e \" \\`, `\xHH`, `\uHHHH`, `\UHHHHHHHH` naming a Unicode scalar value),
literal strings take every printable character but their quote, and multi-line strings
also take line ends (kept as written) and drop one line end right after the opening
delimiter, and a carriage return in them must come before a line feed; in a multi-line
basic string a backslash followed by blanks and a line end removes them and the blanks
and line ends after it. A bare key is a non-empty run of ASCII letters, digits, `-`
and `_`; multi-line strings cannot be keys. Comments hold tabs and printable characters
only, and a carriage return must be followed by a line feed.
-/

namespace FirmwareStamp.Toml.Text

def isHex (c : Char) : Bool :=
  c.isDigit || ('a' ≤ c && c ≤ 'f') || ('A' ≤ c && c ≤ 'F')

def hexDigit (c : Char) : Nat :=
  if c.isDigit then c.toNat - 48 else if c ≤ 'F' then c.toNat - 55 else c.toNat - 87

def hexValue (cs : List Char) : Nat := cs.foldl (fun acc c => acc * 16 + hexDigit c) 0

/-- The escapes a basic string knows, as they are named when one is missing. -/
def escapeNames : List Expected :=
  ["b", "e", "f", "n", "r", "\\", "\"", "x", "u", "U"].map Expected.literal

def missingEscape : Problem := .expecting "missing escaped value" escapeNames

/-- The character named by `n` hexadecimal digits at the front of a text, and the rest. -/
def hexEscape (n : Nat) (cs : List Char) : Except Problem (Char × List Char) :=
  let digits := (cs.takeWhile isHex).take n
  if digits.length < n then
    .error (.expecting "too few unicode value digits" [.description "unicode hexadecimal value"])
  else
    let v := hexValue digits
    if v < 0xD800 || (0xDFFF < v && v ≤ 0x10FFFF) then .ok (Char.ofNat v, cs.drop n)
    else .error (.expecting "invalid value" [.description "unicode hexadecimal value"])

/-- One escape after its backslash: the character it stands for and the rest. -/
def escape : List Char → Except Problem (Char × List Char)
  | [] => .error missingEscape
  | c :: rest =>
    if c == 'b' then .ok ('\x08', rest)
    else if c == 'e' then .ok ('\x1b', rest)
    else if c == 'f' then .ok ('\x0c', rest)
    else if c == 'n' then .ok ('\n', rest)
    else if c == 'r' then .ok ('\r', rest)
    else if c == 't' then .ok ('\t', rest)
    else if c == '\\' then .ok ('\\', rest)
    else if c == '"' then .ok ('"', rest)
    else if c == 'x' then hexEscape 2 rest
    else if c == 'u' then hexEscape 4 rest
    else if c == 'U' then hexEscape 8 rest
    else .error missingEscape

/-- A character a basic string may hold as it is: a tab or a printable character other
than the double quote and the backslash. -/
def isBasicChar (c : Char) : Bool :=
  c == '\t' || c == ' ' || c == '!' || (0x23 ≤ c.toNat && c.toNat ≤ 0x5B) ||
    (0x5D ≤ c.toNat && c.toNat ≤ 0x7E) || 0x80 ≤ c.toNat

/-- A character a literal string may hold: a tab or a printable character other than the
single quote. -/
def isLiteralChar (c : Char) : Bool :=
  c == '\t' || (0x20 ≤ c.toNat && c.toNat ≤ 0x26) || (0x28 ≤ c.toNat && c.toNat ≤ 0x7E) ||
    0x80 ≤ c.toNat

def isPrintable (c : Char) : Bool :=
  c == '\t' || (0x20 ≤ c.toNat && c.toNat ≤ 0x7E) || 0x80 ≤ c.toNat

/-- The characters of a basic string between its quotes; `bad` is the problem of a
character it may not hold. `fuel` bounds the steps (each takes one character or more). -/
def basicChars (bad : Problem) : Nat → List Char → Except Problem (List Char)
  | 0, _ => .ok []
  | _, [] => .ok []
  | fuel + 1, c :: rest =>
    if c == '\\' then do
      let (e, r) ← escape rest
      let tail ← basicChars bad fuel r
      return e :: tail
    else if isBasicChar c then do
      let tail ← basicChars bad fuel rest
      return c :: tail
    else .error bad

/-- The problem of a carriage return that no line feed follows. -/
def bareReturn : Problem :=
  .expecting "carriage return must be followed by newline" [.literal "\n"]

/-- What follows a backslash that ends a line: the blanks and line ends after it are
dropped, up to the next other character. -/
def afterLineBackslash : List Char → Except Problem (List Char)
  | [] => .ok []
  | c :: rest =>
    if Token.isBlank c || c == '\n' then afterLineBackslash rest
    else if c == '\r' then
      match rest with
      | '\n' :: more => afterLineBackslash more
      | _ => .error bareReturn
    else .ok (c :: rest)

/-- The characters of a multi-line basic string between its delimiters. A backslash
before a blank or a line end ends its line: only blanks may stand between it and the
line end. -/
def multiBasicChars (bad : Problem) : Nat → List Char → Except Problem (List Char)
  | 0, _ => .ok []
  | _, [] => .ok []
  | fuel + 1, c :: rest =>
    if c == '\\' then
      match rest with
      | d :: _ =>
        if Token.isBlank d || d == '\n' || d == '\r' then
          match rest.dropWhile Token.isBlank with
          | '\n' :: _ | '\r' :: _ => do
            let r ← afterLineBackslash rest
            multiBasicChars bad fuel r
          | _ => .error (.expecting "invalid multi-line basic string" [.literal "\n"])
        else do
          let (e, r) ← escape rest
          let tail ← multiBasicChars bad fuel r
          return e :: tail
      | [] => .error missingEscape
    else if c == '\r' then
      match rest with
      | '\n' :: more => do
        let tail ← multiBasicChars bad fuel more
        return '\r' :: '\n' :: tail
      | _ => .error bareReturn
    else if c == '\n' || c == '"' || isBasicChar c then do
      let tail ← multiBasicChars bad fuel rest
      return c :: tail
    else .error bad

/-- The characters of a multi-line literal string between its delimiters. -/
def multiLiteralChars (bad : Problem) : List Char → Except Problem (List Char)
  | [] => .ok []
  | c :: rest =>
    if c == '\r' then
      match rest with
      | '\n' :: more => do
        let tail ← multiLiteralChars bad more
        return '\r' :: '\n' :: tail
      | _ => .error bareReturn
    else if c == '\n' || isPrintable c then do
      let tail ← multiLiteralChars bad rest
      return c :: tail
    else .error bad

def dropLineEnd : List Char → List Char
  | '\n' :: rest => rest
  | '\r' :: '\n' :: rest => rest
  | cs => cs

/-- The text between an opening and a closing delimiter: the closing one must be there
(`unclosed` otherwise); an opening one that is missing is `unclosed` as well. -/
def between (delim : List Char) (unclosed : Problem) (raw : List Char) :
    Except Problem (List Char) :=
  if delim.isPrefixOf raw then
    let inner := raw.drop delim.length
    if delim.isSuffixOf inner then .ok (inner.take (inner.length - delim.length))
    else .error unclosed
  else .error unclosed

/-- Decodes a quoted string as written, delimiters included. -/
def decodeQuoted (q : Quote) (raw : List Char) : Except Problem String :=
  match q with
  | .basic => do
    let inner ← between ['"'] (.expecting "invalid basic string" [.literal "\""]) raw
    let bad := Problem.expecting "invalid basic string"
      [.description "non-double-quote visible characters", .literal "\\"]
    let cs ← basicChars bad (inner.length + 1) inner
    return String.ofList cs
  | .literal => do
    let inner ← between ['\''] (.expecting "invalid literal string" [.literal "'"]) raw
    match inner.find? fun c => !isLiteralChar c with
    | some _ =>
      .error (.expecting "invalid literal string" [.description "non-single-quote visible characters"])
    | none => return String.ofList inner
  | .multiBasic => do
    let inner ← between ['"', '"', '"'] (.expecting "invalid multi-line basic string" [.literal "\""]) raw
    let inner := dropLineEnd inner
    let bad := Problem.expecting "invalid multi-line basic string"
      [.literal "\\", .description "characters"]
    let cs ← multiBasicChars bad (inner.length + 1) inner
    return String.ofList cs
  | .multiLiteral => do
    let inner ← between ['\'', '\'', '\''] (.expecting "invalid multi-line literal string" [.literal "'"]) raw
    let bad := Problem.expecting "invalid multi-line literal string"
      [.description "non-single-quote characters"]
    let cs ← multiLiteralChars bad (dropLineEnd inner)
    return String.ofList cs

def isBareKeyChar (c : Char) : Bool := c.isAlphanum || c == '-' || c == '_'

/-- What a bare key may consist of, as named in its problems. -/
def bareKeyNames : List Expected :=
  [.description "letters", .description "numbers", .literal "-", .literal "_"]

def quotedKeyNames : List Expected := [.description "basic string", .description "literal string"]

/-- Decodes a key piece: bare (`none`) or quoted. -/
def decodeKey : Option Quote → List Char → Except Problem String
  | none, raw =>
    if raw.isEmpty then .error (.expecting "unquoted keys cannot be empty" bareKeyNames)
    else if raw.all isBareKeyChar then .ok (String.ofList raw)
    else .error (.expecting "invalid unquoted key" bareKeyNames)
  | some .multiBasic, _ => .error (.expecting "keys cannot be multi-line basic strings" quotedKeyNames)
  | some .multiLiteral, _ => .error (.expecting "keys cannot be multi-line literal strings" quotedKeyNames)
  | some q, raw => decodeQuoted q raw

/-- A non-empty run of key characters is a key as it is written. -/
theorem decodeKey_bare {raw : List Char} (h : raw ≠ []) (hk : raw.all isBareKeyChar) :
    decodeKey none raw = .ok (String.ofList raw) := by
  simp [decodeKey, h, hk]

def checkComment (text : List Char) : Except Problem Unit :=
  if text.all isPrintable then .ok ()
  else .error (.expecting "invalid comment character" [.description "printable characters"])

def checkNewline (bare : Bool) : Except Problem Unit :=
  if bare then .error bareReturn else .ok ()

end FirmwareStamp.Toml.Text
