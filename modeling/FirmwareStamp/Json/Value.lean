import FirmwareStamp.Json.Scan

/-!
JSON documents as values, and the structural steps shared by every reader: the next
element of an array, the next key of an object, the colon, and the closing brackets.
An object keeps one value per key; a key given twice keeps its last value. A document
nests at most 127 arrays or objects, and nothing but blanks may follow it.
-/

namespace FirmwareStamp.Json

/-- A JSON document. -/
inductive Value where
  | null
  | bool (b : Bool)
  | number (n : Number)
  | str (s : String)
  | arr (items : List Value)
  | obj (fields : List (String × Value))

/-- Sets a key of an object's field list, in place when the key is already there. -/
def setField (fields : List (String × Value)) (key : String) (v : Value) :
    List (String × Value) :=
  if fields.any (·.1 == key) then fields.map (fun f => if f.1 == key then (key, v) else f)
  else fields ++ [(key, v)]

/-- The value of a key of an object; nothing for other values. -/
def Value.field? (v : Value) (key : String) : Option Value :=
  match v with
  | .obj fields => (fields.find? (·.1 == key)).map (·.2)
  | _ => none

def Value.text? : Value → Option String
  | .str s => some s
  | _ => none

/-- Moves to the next element of an array: `true` when one starts here, `false` at the
closing bracket (left unread). -/
def nextElement (first : Bool) : Scan Bool := do
  match ← skipBlanks with
  | none => failAhead .eofInList
  | some b =>
    if b == 0x5D then return false
    let next ← if b == 0x2C && !first then do advance; skipBlanks
      else if first then pure (some b)
      else failAhead .expectedListCommaOrEnd
    match next with
    | none => failAhead .eofInValue
    | some c => if c == 0x5D then failAhead .trailingComma else return true

/-- Moves to the next key of an object and reads it; nothing at the closing brace (left
unread). -/
def nextKey (first : Bool) : Scan (Option String) := do
  match ← skipBlanks with
  | none => failAhead .eofInObject
  | some b =>
    if b == 0x7D then return none
    let next ← if b == 0x2C && !first then do advance; skipBlanks
      else if first then pure (some b)
      else failAhead .expectedObjectCommaOrEnd
    match next with
    | none => failAhead .eofInValue
    | some c =>
      if c == 0x22 then do advance; return some (← readString)
      else if c == 0x7D then failAhead .trailingComma
      else failAhead .keyMustBeString

def objectColon : Scan Unit := do
  match ← skipBlanks with
  | some 0x3A => advance
  | some _ => failAhead .expectedColon
  | none => failAhead .eofInObject

def endArray : Scan Unit := do
  match ← skipBlanks with
  | some 0x5D => advance
  | some 0x2C => do
    advance
    match ← skipBlanks with
    | some 0x5D => failAhead .trailingComma
    | _ => failAhead .trailingCharacters
  | some _ => failAhead .trailingCharacters
  | none => failAhead .eofInList

def endObject : Scan Unit := do
  match ← skipBlanks with
  | some 0x7D => advance
  | some 0x2C => failAhead .trailingComma
  | some _ => failAhead .trailingCharacters
  | none => failAhead .eofInObject

mutual

/-- Reads any value. `depth` is the number of arrays and objects that may still open,
plus one; `fuel` bounds the reading steps and is never the limit for a fuel at least
the input's length. -/
def readValue (depth : Nat) : Nat → Scan Value
  | 0 => fail .recursionLimitExceeded
  | fuel + 1 => do
    match ← skipBlanks with
    | none => failAhead .eofInValue
    | some b =>
      if b == 0x6E then do advance; expectWord (asciiBytes "ull"); return .null
      else if b == 0x74 then do advance; expectWord (asciiBytes "rue"); return .bool true
      else if b == 0x66 then do advance; expectWord (asciiBytes "alse"); return .bool false
      else if b == 0x2D then do advance; return .number (← readNumber false)
      else if isDigitByte b then return .number (← readNumber true)
      else if b == 0x22 then do advance; return .str (← readString)
      else if b == 0x5B then do
        if depth ≤ 1 then failAhead .recursionLimitExceeded
        advance
        let items ← readItems (depth - 1) fuel true
        endArray
        return .arr items
      else if b == 0x7B then do
        if depth ≤ 1 then failAhead .recursionLimitExceeded
        advance
        let fields ← readFields (depth - 1) fuel true []
        endObject
        return .obj fields
      else failAhead .expectedValue

/-- Reads the elements of an array after its opening bracket. -/
def readItems (depth : Nat) : Nat → Bool → Scan (List Value)
  | 0, _ => fail .recursionLimitExceeded
  | fuel + 1, first => do
    if ← nextElement first then
      let v ← readValue depth fuel
      let rest ← readItems depth fuel false
      return v :: rest
    else return []

def readFields (depth : Nat) : Nat → Bool → List (String × Value) →
    Scan (List (String × Value))
  | 0, _, _ => fail .recursionLimitExceeded
  | fuel + 1, first, acc => do
    match ← nextKey first with
    | none => return acc
    | some key =>
      objectColon
      let v ← readValue depth fuel
      readFields depth fuel false (setField acc key v)

end

/-- Nothing but blanks may follow a document. -/
def endDocument : Scan Unit := do
  match ← skipBlanks with
  | none => pure ()
  | some _ => failAhead .trailingCharacters

/-- Runs a reader over the whole text of a document; the error carries its rendered
position. -/
def runReader {α : Type} (reader : Scan α) (text : String) : Except String α :=
  let bytes := text.toUTF8.toList
  match (do let v ← reader; endDocument; pure v).run bytes with
  | .ok (v, _) => .ok v
  | .error e => .error (e.render bytes)

def parseValue (text : String) : Except String Value :=
  runReader (readValue 128 (text.utf8ByteSize + 2)) text

end FirmwareStamp.Json
