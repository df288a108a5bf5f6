import FirmwareStamp.Json.Value

/-!
Typed reading of JSON: texts, 32-bit words, flags, lists of texts, optional texts,
skipped values, and records written either as an object or as an array of their
fields in order. A value of the wrong kind is read through before the type error is
reported, so the error points after it; an array or object of the wrong kind is
reported where it starts.
-/

namespace FirmwareStamp.Json

/-- Reports a value of the wrong kind at the next byte. Scalars are read first and the
error points after them; arrays and objects are reported where they open. -/
def wrongKind {α : Type} (expected : String) : Scan α := do
  match ← peekByte with
  | some 0x6E => do advance; expectWord (asciiBytes "ull"); fail (.invalidType .null expected)
  | some 0x74 => do advance; expectWord (asciiBytes "rue"); fail (.invalidType (.bool true) expected)
  | some 0x66 => do advance; expectWord (asciiBytes "alse"); fail (.invalidType (.bool false) expected)
  | some 0x2D => do advance; let n ← readNumber false; fail (.invalidType n.found expected)
  | some 0x22 => do advance; let s ← readString; fail (.invalidType (.str s) expected)
  | some 0x5B => fail (.invalidType .seq expected)
  | some 0x7B => fail (.invalidType .map expected)
  | some b =>
    if isDigitByte b then do let n ← readNumber true; fail (.invalidType n.found expected)
    else failAhead .expectedValue
  | none => failAhead .expectedValue

def readText : Scan String := do
  match ← skipBlanks with
  | none => failAhead .eofInValue
  | some b => if b == 0x22 then do advance; readString else wrongKind "a string"

/-- Reads a 32-bit word; negative numbers and numbers above the range are values out
of range, doubles are of the wrong kind. -/
def readWord32 : Scan UInt32 := do
  let expected := "u32"
  match ← skipBlanks with
  | none => failAhead .eofInValue
  | some b =>
    let n ← if b == 0x2D then do advance; readNumber false
      else if isDigitByte b then readNumber true
      else wrongKind expected
    match n with
    | .unsigned k => if k < Nat.pow 2 32 then return k.toUInt32 else fail (.invalidValue (.unsigned k) expected)
    | .signed k => fail (.invalidValue (.signed k) expected)
    | .float f => fail (.invalidType (.float (floatText f)) expected)

def readFlag : Scan Bool := do
  match ← skipBlanks with
  | none => failAhead .eofInValue
  | some b =>
    if b == 0x74 then do advance; expectWord (asciiBytes "rue"); return true
    else if b == 0x66 then do advance; expectWord (asciiBytes "alse"); return false
    else wrongKind "a boolean"

/-- Reads the text elements of an array after its opening bracket. -/
def readTextItems : Nat → Bool → Scan (List String)
  | 0, _ => fail .recursionLimitExceeded
  | fuel + 1, first => do
    if ← nextElement first then
      let s ← readText
      let rest ← readTextItems fuel false
      return s :: rest
    else return []

def readTextList (fuel : Nat) : Scan (List String) := do
  match ← skipBlanks with
  | none => failAhead .eofInValue
  | some b =>
    if b == 0x5B then do
      advance
      let items ← readTextItems fuel true
      endArray
      return items
    else wrongKind "a sequence"

def readOptionalText : Scan (Option String) := do
  match ← skipBlanks with
  | some 0x6E => do advance; expectWord (asciiBytes "ull"); return none
  | _ => return some (← readText)

/-- One open bracket of a skipped value. -/
inductive Frame where
  | array
  | object
deriving DecidableEq

/-- Skips one value of any shape, checking its syntax only; no nesting limit applies. -/
def skipValue (fuel : Nat) : Scan Unit := do
  let rec loop : Nat → List Frame → Scan Unit
    | 0, _ => fail .recursionLimitExceeded
    | fuel + 1, stack => do
      -- one value, which may open a frame
      let opened ← match ← skipBlanks with
        | none => failAhead .eofInValue
        | some b =>
          if b == 0x6E then do advance; expectWord (asciiBytes "ull"); pure none
          else if b == 0x74 then do advance; expectWord (asciiBytes "rue"); pure none
          else if b == 0x66 then do advance; expectWord (asciiBytes "alse"); pure none
          else if b == 0x2D then do advance; skipNumber; pure none
          else if isDigitByte b then do skipNumber; pure none
          else if b == 0x22 then do advance; skipString; pure none
          else if b == 0x5B then do advance; pure (some Frame.array)
          else if b == 0x7B then do advance; pure (some Frame.object)
          else failAhead .expectedValue
      -- close frames until one wants another value
      let rec close : Nat → Bool → Frame → List Frame → Scan (Option (Frame × List Frame))
        | 0, _, _, _ => fail .recursionLimitExceeded
        | fuel + 1, acceptComma, frame, stack => do
          match ← skipBlanks with
          | some 0x2C =>
            if acceptComma then do advance; return some (frame, stack)
            else return some (frame, stack)
          | some 0x5D =>
            if frame == .array then do
              advance
              match stack with
              | [] => return none
              | f :: fs => close fuel true f fs
            else if acceptComma then failAhead .expectedObjectCommaOrEnd
            else return some (frame, stack)
          | some 0x7D =>
            if frame == .object then do
              advance
              match stack with
              | [] => return none
              | f :: fs => close fuel true f fs
            else if acceptComma then failAhead .expectedListCommaOrEnd
            else return some (frame, stack)
          | some _ =>
            if acceptComma then
              failAhead (if frame == .array then .expectedListCommaOrEnd else .expectedObjectCommaOrEnd)
            else return some (frame, stack)
          | none => failAhead (if frame == .array then .eofInList else .eofInObject)
      let after ← match opened with
        | some f => close fuel false f stack
        | none =>
          match stack with
          | [] => pure none
          | f :: fs => close fuel true f fs
      match after with
      | none => pure ()
      | some (frame, stack) => do
        if frame == .object then do
          match ← skipBlanks with
          | some 0x22 => advance
          | some _ => failAhead .keyMustBeString
          | none => failAhead .eofInObject
          skipString
          match ← skipBlanks with
          | some 0x3A => advance
          | some _ => failAhead .expectedColon
          | none => failAhead .eofInObject
        loop fuel (frame :: stack)
  loop fuel []

/-- Reads a record written as an object or as an array of its fields. A failure the
record's reader reports as a problem (a missing, repeated or short field list) is
placed after the closing bracket when that bracket follows. -/
def readRecord {α : Type} (expected : String)
    (fromObject fromArray : Scan (Except Problem α)) : Scan α := do
  match ← skipBlanks with
  | none => failAhead .eofInValue
  | some b =>
    if b == 0x5B then do
      advance
      match ← fromArray with
      | .ok v => endArray; return v
      | .error p => do
        let _ ← skipBlanks
        tryCatch endArray (fun _ => pure ())
        fail p
    else if b == 0x7B then do
      advance
      match ← fromObject with
      | .ok v => endObject; return v
      | .error p => do
        let _ ← skipBlanks
        tryCatch endObject (fun _ => pure ())
        fail p
    else wrongKind expected

/-- Folds over the members of an object after its opening brace: `member` reads the
colon and the value of a key itself, or refuses the key. -/
def foldMembers {σ : Type} (member : σ → String → Scan (Except Problem σ)) :
    Nat → Bool → σ → Scan (Except Problem σ)
  | 0, _, _ => fail .recursionLimitExceeded
  | fuel + 1, first, s => do
    match ← nextKey first with
    | none => return .ok s
    | some key =>
      match ← member s key with
      | .error p => return .error p
      | .ok s' => foldMembers member fuel false s'

end FirmwareStamp.Json
