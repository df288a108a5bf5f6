import FirmwareStamp.Toml.Problem
import FirmwareStamp.Toml.Token
import FirmwareStamp.Toml.Text
import FirmwareStamp.Toml.Datetime

/-!
Decoding a scalar value from its text. Quoted strings decode as strings. A bare value is
read by its first character: `t` and `f` start the booleans, `i` and `n` the infinities
and not-a-number, a sign, a digit, a dot or an underscore a number or a date-time, and
anything else is a string that lacks its quotes. A run of digits followed by `-` or `:` is
a date-time. Otherwise a number with a point or an exponent is a float, with digits in
each part and no leading zero before the point; an integer has no leading zero, and the
prefixes `0x`, `0o`, `0b` (lower case, unsigned) give the bases sixteen, eight and two,
while `0d` is refused as redundant. Words joined by spaces make a value only when they
start like a date-time; otherwise they are a string that lacks its quotes. An underscore must stand between two digits of what follows the sign; beside an
underscore of an integer of any base every hexadecimal digit counts, and the range check
later refuses the ones out of the base. A word that fits nothing and ends in a closing
quote lacks its opening one. Integers and floats keep their digits (underscores dropped,
the sign kept) for the later check of their range.
-/

namespace FirmwareStamp.Toml

/-- A scalar value as decoded from its text. -/
inductive Scalar where
  | str (s : String)
  | bool (b : Bool)
  /-- An integer: its digits without underscores (a sign allowed in base ten) and its base. -/
  | integer (digits : List Char) (radix : Nat)
  /-- A float: its text without underscores. -/
  | float (text : List Char)
  | datetime (text : List Char)
deriving DecidableEq, Repr

namespace Scalar

def unquoted : Problem := .expecting "string values must be quoted" [.description "literal string"]

/-- The problem of an underscore that does not stand between two digits. -/
def strayUnderscore : Problem := .expecting "`_` may only go between digits" []

/-- The problem of a number that starts with a zero it may not have. -/
def leadingZero : Problem := .expecting "unexpected leading zero" []

/-- The problem of a bare value that is none of the others: a word that ends in a closing
quote lacks its opening one, and any other word is a string without its quotes. -/
def invalid (raw : List Char) : Problem :=
  let opening (q : String) := Problem.expecting "missing opening quote" [.literal q]
  if "'''".toList.isSuffixOf raw then opening "'''"
  else if "\"\"\"".toList.isSuffixOf raw then opening "\"\"\""
  else if "'".toList.isSuffixOf raw then opening "'"
  else if "\"".toList.isSuffixOf raw then opening "\""
  else unquoted

def isDigitOf (base : Nat) (c : Char) : Bool :=
  match base with
  | 16 => Text.isHex c
  | 8 => '0' ≤ c && c ≤ '7'
  | 2 => c == '0' || c == '1'
  | _ => c.isDigit

/-- A character an underscore may stand beside: a hexadecimal digit in an integer of any
base, a decimal digit in a float (`none`). -/
def besideUnderscore : Option Nat → Char → Bool
  | some _, c => Text.isHex c
  | none, c => c.isDigit

def parts : List Char → List (List Char)
  | [] => [[]]
  | c :: rest =>
    if c == '_' then [] :: parts rest
    else
      match parts rest with
      | p :: ps => (c :: p) :: ps
      | [] => [[c]]

/-- Whether the parts of a number between underscores leave an underscore without a digit
on one of its sides. `start` is where a part begins in the whole text of `size` characters. -/
def partsMisplaced (digit : Char → Bool) (size : Nat) : List (List Char) → Nat → Bool
  | [], _ => false
  | p :: ps, start =>
    let stop := start + p.length
    (0 < start && !digit (p.headD '0')) ||
      (1 < p.length && stop < size && !digit (p.getLastD '0')) ||
      (p.isEmpty && start != 0 && stop != size) ||
      partsMisplaced digit size ps (stop + 1)

/-- Whether an underscore of a number's digits `stream`, which end its whole text of
`size` characters, is misplaced. -/
def underscoreMisplaced (digit : Char → Bool) (size : Nat) (stream : List Char) : Bool :=
  stream.contains '_' &&
    (stream.head? == some '_' || (1 < stream.length && stream.getLast? == some '_') ||
      partsMisplaced digit size (parts stream) (size - stream.length))

/-- The digits of a number once the underscores of `stream`, the text after its sign, are
checked: an integer of the given base or a float (`none`), the sign put back in front. -/
def number (sign stream : List Char) (size : Nat) (kind : Option Nat) : Except Problem Scalar :=
  if underscoreMisplaced (besideUnderscore kind) size stream then .error strayUnderscore
  else
    let clean := sign ++ stream.filter (· != '_')
    match kind with
    | some r => .ok (.integer clean r)
    | none => .ok (.float clean)

/-- Checks an unsigned run of decimal digits (underscores allowed) at the front of a text
and returns the rest: it needs a digit, and a leading zero only where `zeroOk`. -/
def decimalRun (zeroOk : Bool) (what : String) (cs : List Char) : Except Problem (List Char) :=
  let run := cs.takeWhile fun c => c.isDigit || c == '_'
  let count := (run.filter Char.isDigit).length
  if count == 0 then .error (.expecting what [.description "digits"])
  else if 2 ≤ count && cs.head? == some '0' && !zeroOk then .error leadingZero
  else .ok (cs.drop run.length)

/-- Checks the shape of a float: mantissa, then an optional fraction, then an optional
exponent with an optional sign, and nothing after. -/
def checkFloat (value : List Char) : Except Problem Unit := do
  let r ← decimalRun false "invalid mantissa" value
  let r ← match r with
    | '.' :: more => decimalRun true "invalid fraction" more
    | _ => pure r
  let r ← match r with
    | e :: more =>
      if e == 'e' || e == 'E' then
        match more with
        | s :: m => decimalRun true "invalid exponent" (if s == '+' || s == '-' then m else s :: m)
        | [] => decimalRun true "invalid exponent" []
      else pure (e :: more)
    | [] => pure []
  if !r.isEmpty then throw (.expecting "invalid float" [])

/-- A value made of digits: a date-time when the leading digits are followed by `-` or
`:`, a float when a point or an exponent follows, an integer when there are only digits and
underscores. `value` is the text after a sign, `raw` the whole text. -/
def digitsFirst (value raw : List Char) : Except Problem Scalar :=
  let sign := raw.take (raw.length - value.length)
  let lead := value.takeWhile Char.isDigit
  let rest := value.drop lead.length
  match rest with
  | [] =>
    if value.head? == some '0' then .error leadingZero else number sign value raw.length (some 10)
  | r :: _ =>
    if r == '-' || r == ':' then
      match Datetime.check raw with
      | .ok () => .ok (.datetime raw)
      | .error f => .error (.plain f.message)
    else if rest.any fun c => c == '.' || c == 'e' || c == 'E' then do
      checkFloat value
      number sign value raw.length none
    else if r == '_' then
      if value.head? == some '0' then .error leadingZero else number sign value raw.length (some 10)
    else .error (invalid raw)

/-- The base a radix letter names, with its lower-case letter and the problem of a bad digit. -/
def radixOf (c : Char) : Option (Nat × Char × String) :=
  if c == 'x' || c == 'X' then some (16, 'x', "invalid hexadecimal number")
  else if c == 'o' || c == 'O' then some (8, 'o', "invalid octal number")
  else if c == 'b' || c == 'B' then some (2, 'b', "invalid binary number")
  else none

def radixSigned : Problem := .expecting "integers with a radix cannot be signed" []

/-- A value starting with a zero: zero itself, an integer with a base prefix, or a value
made of digits. The prefix `0d` is refused as redundant. -/
def zeroFirst (value raw : List Char) (signed : Bool) : Except Problem Scalar :=
  match value with
  | [_] => number (raw.take (raw.length - 1)) value raw.length (some 10)
  | _ :: r :: stream =>
    if r == 'd' || r == 'D' then
      .error (if signed then radixSigned else .expecting "redundant integer number prefix" [])
    else
      match radixOf r with
      | some (base, lower, badDigit) => do
        if signed then throw radixSigned
        if r != lower then
          throw (.expecting "radix must be lowercase" [.literal (String.ofList ['0', lower])])
        let digits ← match stream with
          | s :: more =>
            if s == '+' || s == '-' then throw (.expecting "unexpected sign" []) else pure (s :: more)
          | [] => pure []
        if digits.any fun c => !(c == '_' || isDigitOf base c) then throw (.plain badDigit)
        number [] stream raw.length (some base)
      | none => digitsFirst value raw
  | [] => .error (invalid raw)

def symbol (raw : List Char) (word : String) (v : Scalar) (what : String) : Except Problem Scalar :=
  if raw == word.toList then .ok v
  else .error (.expecting what [.literal word])

def afterSign (value raw : List Char) : Except Problem Scalar :=
  match value with
  | [] => .error (invalid raw)
  | c :: _ =>
    if c == '+' || c == '-' then .error (.expecting "redundant numeric sign" [])
    else if c == '0' then zeroFirst value raw true
    else if c.isDigit || c == '_' then digitsFirst value raw
    else if c == '.' then do
      checkFloat value
      number (raw.take 1) value raw.length none
    else if c == 'i' || c == 'I' then
      if value == "inf".toList then .ok (.float raw) else .error (.expecting "invalid float" [.literal "inf"])
    else if c == 'n' || c == 'N' then
      if value == "nan".toList then .ok (.float raw) else .error (.expecting "invalid float" [.literal "nan"])
    else .error (invalid raw)

/-- Whether a bare value starts like a date-time: digits, then `-` or `:`. -/
def datetimeLike (raw : List Char) : Bool :=
  raw.head?.any Char.isDigit &&
    match raw.dropWhile Char.isDigit with
    | c :: _ => c == '-' || c == ':'
    | [] => false

/-- Decodes a bare value. Words joined by spaces form a value only as a date-time; any
other such value is a string without its quotes. -/
def ofBare (raw : List Char) : Except Problem Scalar :=
  if raw.contains ' ' && !datetimeLike raw then .error (invalid raw)
  else
    match raw with
    | [] => .error (invalid raw)
    | c :: rest =>
      if c == '+' || c == '-' then afterSign rest raw
      else if c == '0' then zeroFirst raw raw false
      else if c.isDigit || c == '_' then digitsFirst raw raw
      else if c == '.' then do
        checkFloat raw
        number [] raw raw.length none
      else if c == 't' || c == 'T' then symbol raw "true" (.bool true) "invalid boolean"
      else if c == 'f' || c == 'F' then symbol raw "false" (.bool false) "invalid boolean"
      else if c == 'i' || c == 'I' then symbol raw "inf" (.float raw) "invalid float"
      else if c == 'n' || c == 'N' then symbol raw "nan" (.float raw) "invalid float"
      else .error (invalid raw)

def decode : Option Quote → List Char → Except Problem Scalar
  | none, raw => ofBare raw
  | some q, raw => (Text.decodeQuoted q raw).map Scalar.str

/-- A quoted scalar is the string its text decodes to. -/
theorem decode_quoted (q : Quote) (raw : List Char) :
    decode (some q) raw = (Text.decodeQuoted q raw).map Scalar.str := rfl

end Scalar

end FirmwareStamp.Toml
