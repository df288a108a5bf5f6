import FirmwareStamp.Json.Error
import FirmwareStamp.Decimal.Shortest

/-!
The lexical layer of the JSON reader: a state of unread bytes, blanks, keywords,
strings and numbers. Strings are read with their escapes decoded (a surrogate pair
must be complete) or skipped with their escapes only checked. Numbers become an
unsigned or negative integer when they are integers that fit 64 bits; every other
number becomes a double, built from at most 19 significant digits and one power of ten.
-/

namespace FirmwareStamp.Json

abbrev Scan := StateT (List UInt8) (Except Error)

def fail {α : Type} (p : Problem) : Scan α := do
  throw ⟨p, (← get).length, false⟩

/-- Fails with a problem reported at the next byte. -/
def failAhead {α : Type} (p : Problem) : Scan α := do
  throw ⟨p, (← get).length, true⟩

def isBlankByte (b : UInt8) : Bool := b == 0x20 || b == 0x0A || b == 0x09 || b == 0x0D

def isDigitByte (b : UInt8) : Bool := 0x30 ≤ b && b ≤ 0x39

def skipBlanks : Scan (Option UInt8) := do
  let rest := (← get).dropWhile isBlankByte
  set rest
  return rest.head?

def peekByte : Scan (Option UInt8) := do
  return (← get).head?

def advance : Scan Unit := modify List.tail

def nextByte : Scan (Option UInt8) := do
  match ← get with
  | [] => return none
  | b :: rest => set rest; return some b

def expectWord : List UInt8 → Scan Unit
  | [] => pure ()
  | b :: bs => do
    match ← nextByte with
    | none => fail .eofInValue
    | some c => if c == b then expectWord bs else fail .expectedIdent

def asciiBytes (s : String) : List UInt8 := s.toUTF8.toList

/-! ### Strings -/

def hexDigit (b : UInt8) : Option Nat :=
  if 0x30 ≤ b && b ≤ 0x39 then some (b.toNat - 0x30)
  else if 0x61 ≤ b && b ≤ 0x66 then some (b.toNat - 0x61 + 10)
  else if 0x41 ≤ b && b ≤ 0x46 then some (b.toNat - 0x41 + 10)
  else none

def hexQuad (a b c d : UInt8) : Option Nat := do
  let a ← hexDigit a
  let b ← hexDigit b
  let c ← hexDigit c
  let d ← hexDigit d
  pure (((a * 16 + b) * 16 + c) * 16 + d)

/-- UTF-8 bytes of a code point that is no surrogate. -/
def utf8Of (n : Nat) : List UInt8 := (String.singleton (Char.ofNat n)).toUTF8.toList

def simpleEscape (e : UInt8) : Option UInt8 :=
  if e == 0x22 then some 0x22
  else if e == 0x5C then some 0x5C
  else if e == 0x2F then some 0x2F
  else if e == 0x62 then some 0x08
  else if e == 0x66 then some 0x0C
  else if e == 0x6E then some 0x0A
  else if e == 0x72 then some 0x0D
  else if e == 0x74 then some 0x09
  else none

/-- A failure `n` bytes before the end of the input. -/
def failAt {α : Type} (p : Problem) (remaining : Nat) : Except Error α :=
  .error ⟨p, remaining, false⟩

/-- Reads the body of a string after its opening quote: the decoded bytes (reversed in
`acc` while reading) and the input after the closing quote. A high surrogate escape
must be followed by a low one. -/
def readStringBody (acc : List UInt8) : List UInt8 → Except Error (List UInt8 × List UInt8)
  | [] => failAt .eofInString 0
  | b :: rest =>
    if b == 0x22 then .ok (acc.reverse, rest)
    else if b == 0x5C then
      match rest with
      | [] => failAt .eofInString 0
      | e :: rest =>
        if e == 0x75 then
          match rest with
          | a :: b :: c :: d :: rest =>
            match hexQuad a b c d with
            | none => failAt .invalidEscape rest.length
            | some n =>
              if 0xDC00 ≤ n && n ≤ 0xDFFF then failAt .loneLeadingSurrogate rest.length
              else if n < 0xD800 || n > 0xDBFF then
                readStringBody ((utf8Of n).reverse ++ acc) rest
              else
                match rest with
                | [] => failAt .eofInString 0
                | 0x5C :: rest =>
                  match rest with
                  | [] => failAt .eofInString 0
                  | 0x75 :: rest =>
                    match rest with
                    | a :: b :: c :: d :: rest =>
                      match hexQuad a b c d with
                      | none => failAt .invalidEscape rest.length
                      | some m =>
                        if 0xDC00 ≤ m && m ≤ 0xDFFF then
                          let code := ((n - 0xD800) * 0x400 + (m - 0xDC00)) + 0x10000
                          readStringBody ((utf8Of code).reverse ++ acc) rest
                        else failAt .loneLeadingSurrogate rest.length
                    | _ => failAt .eofInString 0
                  | _ :: rest => failAt .unexpectedEndOfHexEscape rest.length
                | _ :: rest => failAt .unexpectedEndOfHexEscape rest.length
          | _ => failAt .eofInString 0
        else
          match simpleEscape e with
          | some v => readStringBody (v :: acc) rest
          | none => failAt .invalidEscape rest.length
    else if b < 0x20 then failAt .controlCharacterInString rest.length
    else readStringBody (b :: acc) rest

/-- Skips the body of a string after its opening quote; escapes are checked for form
only, and a control character is reported before it is read. -/
def skipStringBody : List UInt8 → Except Error (List UInt8)
  | [] => failAt .eofInString 0
  | b :: rest =>
    if b == 0x22 then .ok rest
    else if b == 0x5C then
      match rest with
      | [] => failAt .eofInString 0
      | e :: rest =>
        if e == 0x75 then
          match rest with
          | a :: b :: c :: d :: rest =>
            match hexQuad a b c d with
            | none => failAt .invalidEscape rest.length
            | some _ => skipStringBody rest
          | _ => failAt .eofInString 0
        else
          match simpleEscape e with
          | some _ => skipStringBody rest
          | none => failAt .invalidEscape rest.length
    else if b < 0x20 then failAt .controlCharacterInString (rest.length + 1)
    else skipStringBody rest

/-- Text of decoded string bytes (always valid UTF-8 for a valid input). -/
def textOf (bytes : List UInt8) : String :=
  (String.fromUTF8? (ByteArray.mk bytes.toArray)).getD ""

def readString : Scan String := do
  match readStringBody [] (← get) with
  | .ok (bytes, rest) => set rest; return textOf bytes
  | .error e => throw e

def skipString : Scan Unit := do
  match skipStringBody (← get) with
  | .ok rest => set rest
  | .error e => throw e

/-! ### Numbers -/

/-- A number as the reader keeps it. -/
inductive Number where
  | unsigned (n : Nat)
  | signed (n : Int)
  | float (f : Float)

/-- The text a number is shown with in a type error (see `Decimal.displayText`). -/
def floatText (f : Float) : String := Decimal.displayText f

def Number.found : Number → Found
  | .unsigned n => .unsigned n
  | .signed n => .signed n
  | .float f => .float (floatText f)

def wordMax : Nat := Nat.pow 2 64 - 1

/-- Digits at the front of a byte list and what follows them. -/
def spanDigits (bs : List UInt8) : List UInt8 × List UInt8 :=
  (bs.takeWhile isDigitByte, bs.dropWhile isDigitByte)

/-- Adds digits to a significand while it stays a 64-bit word: the significand, the
number of digits taken and the digits left over. -/
def accumulate (sig : Nat) : List UInt8 → Nat × Nat × List UInt8
  | [] => (sig, 0, [])
  | d :: ds =>
    let next := sig * 10 + (d.toNat - 0x30)
    if next > wordMax then (sig, 0, d :: ds)
    else
      let (s, n, left) := accumulate next ds
      (s, n + 1, left)

def tenToThe (e : Nat) : Float := Decimal.nearest (Nat.pow 10 e) 1

/-- `sig · 10^exp` in double arithmetic: one multiplication or division by a power of
ten up to `10^308`, dividing by `10^308` first while the exponent is lower; `none` when
the result overflows. -/
def fromParts (sig : Nat) (exp : Int) : Option Float :=
  let rec go : Nat → Float → Int → Option Float
    | 0, f, _ => some f
    | fuel + 1, f, e =>
      if e.natAbs ≤ 308 then
        if e ≥ 0 then
          let g := f * tenToThe e.toNat
          if g.isInf then none else some g
        else some (f / tenToThe e.natAbs)
      else if f == 0.0 then some f
      else if e ≥ 0 then none
      else go fuel (f / tenToThe 308) (e + 308)
  go 40 sig.toUInt64.toFloat exp

def signed (positive : Bool) (f : Float) : Float := if positive then f else -f

/-- Saturating addition to a 32-bit signed exponent. -/
def clampExponent (e : Int) : Int := max (-2147483648) (min 2147483647 e)

/-- Finishes a double from its parts, reporting an overflow after the number. -/
def finishFloat (positive : Bool) (sig : Nat) (exp : Int) (rest : List UInt8) :
    Except Error (Number × List UInt8) :=
  match fromParts sig exp with
  | some f => .ok (.float (signed positive f), rest)
  | none => failAt .numberOutOfRange rest.length

def readExponent (positive : Bool) (sig : Nat) (start : Int) (bs : List UInt8) :
    Except Error (Number × List UInt8) :=
  let (expPositive, bs) :=
    match bs with
    | 0x2B :: r => (true, r)
    | 0x2D :: r => (false, r)
    | _ => (true, bs)
  match bs with
  | [] => failAt .eofInValue 0
  | c :: r =>
    if !isDigitByte c then failAt .invalidNumber r.length
    else
      let (digits, after) := spanDigits r
      -- the exponent grows while it stays a 32-bit signed value
      let rec grow : Nat → List UInt8 → Option (Nat × List UInt8)
        | e, [] => some (e, [])
        | e, d :: ds =>
          let next := e * 10 + (d.toNat - 0x30)
          if next > 2147483647 then none
          else grow next ds
      match grow (c.toNat - 0x30) digits with
      | some (e, _) =>
        let exp := clampExponent (if expPositive then start + e else start - e)
        finishFloat positive sig exp after
      | none =>
        if sig ≠ 0 && expPositive then
          -- reported right after the digit that overflowed
          let rec overflowRest : Nat → List UInt8 → Nat
            | _, [] => 0
            | e, d :: ds =>
              let next := e * 10 + (d.toNat - 0x30)
              if next > 2147483647 then ds.length else overflowRest next ds
          failAt .numberOutOfRange (overflowRest (c.toNat - 0x30) digits + after.length)
        else .ok (.float (signed positive 0.0), after)

def readFraction (positive : Bool) (sig : Nat) (start : Int) (bs : List UInt8) :
    Except Error (Number × List UInt8) :=
  let (digits, after) := spanDigits bs
  let (sig', taken, _) := accumulate sig digits
  if digits.isEmpty then
    match bs with
    | [] => .error ⟨.eofInValue, 0, true⟩
    | _ => .error ⟨.invalidNumber, bs.length, true⟩
  else
    -- digits beyond a 64-bit significand are ignored
    let exp := start - taken
    match after with
    | b :: r => if b == 0x65 || b == 0x45 then readExponent positive sig' exp r
                else finishFloat positive sig' exp after
    | [] => finishFloat positive sig' exp after

/-- Reads what follows the integer digits: a fraction, an exponent, or nothing. -/
def readNumberTail (positive : Bool) (sig : Nat) (exp : Int) (isLong : Bool)
    (bs : List UInt8) : Except Error (Number × List UInt8) :=
  match bs with
  | b :: r =>
    if b == 0x2E then readFraction positive sig exp r
    else if b == 0x65 || b == 0x45 then readExponent positive sig exp r
    else if isLong then finishFloat positive sig exp bs
    else if positive then .ok (.unsigned sig, bs)
    else if sig == 0 then .ok (.float (-0.0), bs)
    else if sig ≤ Nat.pow 2 63 then .ok (.signed (-(sig : Int)), bs)
    else .ok (.float (-(sig.toUInt64.toFloat)), bs)
  | [] =>
    if isLong then finishFloat positive sig exp bs
    else if positive then .ok (.unsigned sig, bs)
    else if sig == 0 then .ok (.float (-0.0), bs)
    else if sig ≤ Nat.pow 2 63 then .ok (.signed (-(sig : Int)), bs)
    else .ok (.float (-(sig.toUInt64.toFloat)), bs)

def readNumberBytes (positive : Bool) : List UInt8 → Except Error (Number × List UInt8)
  | [] => failAt .eofInValue 0
  | c :: rest =>
    if c == 0x30 then
      match rest with
      | d :: _ =>
        if isDigitByte d then .error ⟨.invalidNumber, rest.length, true⟩
        else readNumberTail positive 0 0 false rest
      | [] => readNumberTail positive 0 0 false rest
    else if isDigitByte c then
      let (digits, after) := spanDigits rest
      let (sig, _, left) := accumulate (c.toNat - 0x30) digits
      readNumberTail positive sig left.length (!left.isEmpty) after
    else failAt .invalidNumber rest.length

def readNumber (positive : Bool) : Scan Number := do
  match readNumberBytes positive (← get) with
  | .ok (n, rest) => set rest; return n
  | .error e => throw e

/-- Skips a number after its optional minus sign, checking its form only. -/
def skipNumberBytes : List UInt8 → Except Error (List UInt8)
  | [] => failAt .invalidNumber 0
  | c :: rest =>
    let afterInt : Except Error (List UInt8) :=
      if c == 0x30 then
        match rest with
        | d :: _ => if isDigitByte d then .error ⟨.invalidNumber, rest.length, true⟩ else .ok rest
        | [] => .ok rest
      else if isDigitByte c then .ok (rest.dropWhile isDigitByte)
      else failAt .invalidNumber rest.length
    let skipExponent (bs : List UInt8) : Except Error (List UInt8) :=
      let bs := match bs with
        | 0x2B :: r => r
        | 0x2D :: r => r
        | _ => bs
      match bs with
      | d :: r => if isDigitByte d then .ok (r.dropWhile isDigitByte) else failAt .invalidNumber r.length
      | [] => failAt .invalidNumber 0
    match afterInt with
    | .error e => .error e
    | .ok bs =>
      match bs with
      | 0x2E :: r =>
        let (digits, after) := spanDigits r
        if digits.isEmpty then .error ⟨.invalidNumber, r.length, true⟩
        else
          match after with
          | b :: r2 => if b == 0x65 || b == 0x45 then skipExponent r2 else .ok after
          | [] => .ok after
      | b :: r => if b == 0x65 || b == 0x45 then skipExponent r else .ok bs
      | [] => .ok bs

def skipNumber : Scan Unit := do
  match skipNumberBytes (← get) with
  | .ok rest => set rest
  | .error e => throw e

end FirmwareStamp.Json
