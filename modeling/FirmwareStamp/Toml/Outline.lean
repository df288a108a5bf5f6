import FirmwareStamp.Toml.Problem
import FirmwareStamp.Toml.Token
import FirmwareStamp.Toml.Text

/-!
The outline of a TOML document, read from its tokens before any text is decoded. A
document is a list of lines: table headers `[key]` and `[[key]]`, and key-value pairs
whose values are scalars as written, arrays and inline tables. The first structural
problem ends reading: a key without `=`, something after a value or header on its line, an
unclosed header, array or inline table, a comma, `=` or bracket out of place, or containers
nested deeper than `maxDepth`. Comments and line ends are checked as they are passed. Some gaps
are not structural problems but leave a piece the decoding rejects later: a key missing
around a dot or before `=` is an empty bare key, a missing value at the end of a line is an
empty bare word, and a key of an inline table left without its value at `}` gets an empty
literal string.
-/

namespace FirmwareStamp.Toml

/-- A key or a scalar as written: bare (`none`) or quoted, with its raw text. -/
structure Piece where
  quote : Option Quote
  raw : List Char
deriving DecidableEq, Repr

/-- A value as written. -/
inductive Written where
  | scalar (p : Piece)
  | array (items : List Written)
  | inline (entries : List (List Piece × Written))
deriving Repr

/-- A line of a document that defines something. -/
inductive Line where
  /-- A table header; `arrayOf` for `[[...]]`. -/
  | header (arrayOf : Bool) (key : List Piece)
  /-- A key-value pair. -/
  | pair (key : List Piece) (value : Written)
deriving Repr

namespace Outline

/-- How deep arrays and inline tables may be nested. -/
def maxDepth : Nat := 80

def noKey : Piece := ⟨none, []⟩

/-- Reading tokens; a failure is the first structural problem. -/
abbrev Reader := StateT (List Token) (Except Problem)

def next? : Reader (Option Token) := do
  match ← get with
  | [] => return none
  | t :: rest => set rest; return some t

def peek? : Reader (Option Token) := return (← get).head?

def unread (t : Token) : Reader Unit := modify (t :: ·)

def fail {α : Type} (p : Problem) : Reader α := throw p

def check (r : Except Problem Unit) : Reader Unit :=
  match r with
  | .ok () => pure ()
  | .error p => throw p

def skipBlanks : Reader Unit := modify (·.dropWhile fun t => match t with
  | .blank _ => true
  | _ => false)

def afterComment (text : List Char) : Reader Unit := do
  check (Text.checkComment text)
  match ← peek? with
  | some (.newline bare) => do let _ ← next?; check (Text.checkNewline bare)
  | _ => pure ()

def pieceOf? : Token → Option Piece
  | .quoted q raw => some ⟨some q, raw⟩
  | .atom text => some ⟨none, text⟩
  | _ => none

/-- The rest of a line that is not read: everything up to and including its line end;
comments are still checked. -/
def skipLine : Nat → Reader Unit
  | 0 => pure ()
  | fuel + 1 => do
    match ← next? with
    | none => pure ()
    | some (.comment text) => afterComment text
    | some (.newline bare) => check (Text.checkNewline bare)
    | some _ => skipLine fuel

/-- The end of a line after a value or a header: blanks, then a comment, a line end or
the end of the text. -/
def endOfLine : Nat → Reader Unit
  | 0 => pure ()
  | fuel + 1 => do
    match ← next? with
    | none => pure ()
    | some (.comment text) => afterComment text
    | some (.newline bare) => check (Text.checkNewline bare)
    | some (.blank _) => endOfLine fuel
    | some _ => fail (.expecting "unexpected key or value" [.literal "\n", .literal "#"])

/-- The keys after the first one of a dotted key; whether none was left out. -/
def dottedRest : Nat → List Piece → Reader (List Piece × Bool)
  | 0, acc => pure (acc, true)
  | fuel + 1, acc => do
    skipBlanks
    match ← peek? with
    | some .dot => do
      let _ ← next?
      afterDot fuel acc
    | _ => pure (acc, true)
where
  /-- The key after a dot. -/
  afterDot : Nat → List Piece → Reader (List Piece × Bool)
    | 0, acc => pure (acc, true)
    | fuel + 1, acc => do
      match ← next? with
      | none => pure (acc ++ [noKey], false)
      | some (.blank _) => afterDot fuel acc
      | some .dot => afterDot fuel (acc ++ [noKey])
      | some t =>
        match pieceOf? t with
        | some p => dottedRest fuel (acc ++ [p])
        | none => do unread t; pure (acc ++ [noKey], false)

/-- A key in a header: keys may be left out before dots or before the closing bracket;
whether the key was complete. -/
def headerKey : Nat → List Piece → Reader (List Piece × Bool)
  | 0, acc => pure (acc, false)
  | fuel + 1, acc => do
    match ← next? with
    | none => pure (acc ++ [noKey], false)
    | some (.blank _) => headerKey fuel acc
    | some .dot => headerKey fuel (acc ++ [noKey])
    | some t =>
      match pieceOf? t with
      | some p => dottedRest fuel (acc ++ [p])
      | none => do unread t; pure (acc ++ [noKey], false)

def header (fuel : Nat) : Reader Line := do
  let arrayOf ← do
    match ← peek? with
    | some .openBracket => do let _ ← next?; pure true
    | _ => pure false
  skipBlanks
  let (key, complete) ← headerKey fuel []
  skipBlanks
  match ← peek? with
  | some .closeBracket => do
    let _ ← next?
    if arrayOf then
      match ← peek? with
      | some .closeBracket => let _ ← next?
      | _ => fail (.expecting "unclosed array table" [.literal "]"])
    endOfLine fuel
  | _ =>
    if complete then
      if arrayOf then fail (.expecting "unclosed array table" [.literal "]]"])
      else fail (.expecting "unclosed table" [.literal "]"])
    else skipLine fuel
  return .header arrayOf key

/-- Where an inline table stands while it is read. -/
inductive Want where
  | key
  | equals
  | value
  | comma
deriving DecidableEq

/-- What an inline table expected, as named in its problems. -/
def Want.expected : Want → List Expected
  | .key => [.description "key"]
  | .equals => [.literal "="]
  | .value => [.description "value"]
  | .comma => [.literal ","]

/-- The problem of a container opened deeper than `maxDepth`. -/
def tooDeep : Problem := .plain "cannot recurse further; max recursion depth met"

mutual

def value : Nat → Nat → Reader Written
  | 0, _ => fail (.plain "unexpected end of input")
  | fuel + 1, depth => do
    match ← next? with
    | none => pure (.scalar noKey)
    | some t =>
      match t with
      | .comment _ | .comma | .newline _ => do unread t; pure (.scalar noKey)
      | .equals => fail (.expecting "extra `=`" [])
      | .openBrace => inline fuel depth .key [] []
      | .closeBrace => fail (.expecting "missing inline table opening" [.literal "\x7b"])
      | .openBracket => array fuel depth false []
      | .closeBracket => fail (.expecting "missing array opening" [.literal "["])
      | .quoted q raw => pure (.scalar ⟨some q, raw⟩)
      | .atom text => do pure (.scalar ⟨none, ← bareRun fuel text⟩)
      | .dot => do pure (.scalar ⟨none, ← bareRun fuel ['.']⟩)
      | .blank _ => value fuel depth

/-- The words, dots and blanks followed by a word that make one bare scalar. -/
def bareRun : Nat → List Char → Reader (List Char)
  | 0, acc => pure acc
  | fuel + 1, acc => do
    match ← get with
    | .atom text :: rest => do set rest; bareRun fuel (acc ++ text)
    | .dot :: rest => do set rest; bareRun fuel (acc ++ ['.'])
    | .blank b :: .atom text :: rest => do set rest; bareRun fuel (acc ++ b ++ text)
    | _ => pure acc

/-- The items of an array after its opening bracket; `afterItem` once an item was read
and no comma yet. -/
def array : Nat → Nat → Bool → List Written → Reader Written
  | 0, _, _, _ => fail (.plain "unexpected end of input")
  | fuel + 1, depth, afterItem, acc => do
    if depth ≥ maxDepth then fail tooDeep
    match ← next? with
    | none => fail (.expecting "unclosed array" [.literal "]"])
    | some t =>
      match t with
      | .comment text => do afterComment text; array fuel depth afterItem acc
      | .blank _ => array fuel depth afterItem acc
      | .newline bare => do check (Text.checkNewline bare); array fuel depth afterItem acc
      | .comma =>
        if afterItem then array fuel depth false acc
        else fail (.expecting "extra comma in array" [.description "value"])
      | .equals => fail (.expecting "unexpected `=` in array" [.description "value", .literal "]"])
      | .closeBracket => pure (.array acc)
      | _ =>
        if afterItem then fail (.expecting "missing comma between array elements" [.literal ","])
        else do
          unread t
          let v ← value fuel (depth + 1)
          array fuel depth true (acc ++ [v])

/-- The entries of an inline table after its opening brace: `want` is what comes next,
`key` the key read for the entry under way. -/
def inline : Nat → Nat → Want → List Piece → List (List Piece × Written) → Reader Written
  | 0, _, _, _, _ => fail (.plain "unexpected end of input")
  | fuel + 1, depth, want, key, acc => do
    if depth ≥ maxDepth then fail tooDeep
    match ← next? with
    | none => fail (.expecting "unclosed inline table" [.literal "\x7d"])
    | some t =>
      match t with
      | .comment text => do afterComment text; inline fuel depth want key acc
      | .blank _ => inline fuel depth want key acc
      | .newline bare => do check (Text.checkNewline bare); inline fuel depth want key acc
      | .comma =>
        if want == .comma then inline fuel depth .key [] acc
        else fail (.expecting "extra comma in inline table" want.expected)
      | .equals =>
        match want with
        | .key => inline fuel depth .value [noKey] acc
        | .equals => inline fuel depth .value key acc
        | _ => fail (.expecting "extra assignment between key-value pairs" want.expected)
      | .closeBrace =>
        match want with
        | .equals | .value => pure (.inline (acc ++ [(key, .scalar ⟨some .literal, []⟩)]))
        | _ => pure (.inline acc)
      | .closeBracket =>
        if want == .value then do
          unread t
          let v ← value fuel (depth + 1)
          inline fuel depth .comma [] (acc ++ [(key, v)])
        else fail (.expecting "invalid inline table element" want.expected)
      | .openBrace | .openBracket =>
        match want with
        | .key | .comma => fail (.expecting "missing key for inline table element" want.expected)
        | .equals => fail (.expecting "missing assignment between key-value pairs" want.expected)
        | .value => do
          unread t
          let v ← value fuel (depth + 1)
          inline fuel depth .comma [] (acc ++ [(key, v)])
      | _ =>
        match want with
        | .key =>
          match pieceOf? t with
          | some p => do
            let (k, _) ← dottedRest fuel [p]
            inline fuel depth .equals k acc
          | none =>
            if t == .dot then do
              unread t
              let (k, _) ← dottedRest fuel [noKey]
              inline fuel depth .equals k acc
            else fail (.expecting "missing key for inline table element" want.expected)
        | .equals => fail (.expecting "missing assignment between key-value pairs" want.expected)
        | .value => do
          unread t
          let v ← value fuel (depth + 1)
          inline fuel depth .comma [] (acc ++ [(key, v)])
        | .comma => fail (.expecting "missing comma between key-value pairs" want.expected)

end

/-- A key-value pair after its key's first piece; `noValue` is the problem of a key that
no `=` follows. -/
def pairAfter (fuel : Nat) (noValue : Problem) (first : Piece) : Reader Line := do
  let (key, _) ← dottedRest fuel [first]
  skipBlanks
  match ← next? with
  | some .equals => pairValue fuel key
  | _ => fail noValue
where
  /-- The value of a pair after its `=`, and the end of its line. -/
  pairValue (fuel : Nat) (key : List Piece) : Reader Line := do
    skipBlanks
    let v ← value fuel 0
    endOfLine fuel
    return .pair key v

def keyWithoutValue : Problem := .expecting "key with no value" [.literal "="]

def lines : Nat → Reader (List Line)
  | 0 => pure []
  | fuel + 1 => do
    match ← next? with
    | none => pure []
    | some t =>
      match t with
      | .openBracket => do
        let l ← header fuel
        return l :: (← lines fuel)
      | .blank _ => lines fuel
      | .newline bare => do check (Text.checkNewline bare); lines fuel
      | .comment text => do afterComment text; lines fuel
      | .equals => do
        let l ← pairAfter.pairValue fuel [noKey]
        return l :: (← lines fuel)
      | .dot => do
        unread t
        let l ← pairAfter fuel (.expecting "missing value for key" [.literal "="]) noKey
        return l :: (← lines fuel)
      | .quoted q raw => do
        let l ← pairAfter fuel keyWithoutValue ⟨some q, raw⟩
        return l :: (← lines fuel)
      | .atom text => do
        let l ← pairAfter fuel keyWithoutValue ⟨none, text⟩
        return l :: (← lines fuel)
      | .closeBracket => fail (.expecting "missing table open" [.literal "["])
      | _ => fail (.expecting "invalid key-value pair" [.description "key"])

/-- The lines of a document from its tokens, or its first structural problem. -/
def read (tokens : List Token) : Except Problem (List Line) :=
  (lines (3 * tokens.length + 8)).run' tokens

end Outline

end FirmwareStamp.Toml
