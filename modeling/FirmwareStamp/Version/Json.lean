import FirmwareStamp.Version.Record
import FirmwareStamp.Json.Decode
import FirmwareStamp.Json.Print

/-!
The JSON form of a version record. It is written as an object with the keys name,
major, minor, patch and build in that order, indented by four spaces, and ends with a
newline. It is read from an object with those keys in any order (other keys are
skipped, a repeated key is refused, every key is required) or from an array of the
five fields in order.
-/

namespace FirmwareStamp.Version

open FirmwareStamp.Json

def Record.renderJson (r : Record) : String :=
  "\x7b\n    \"name\": " ++ quote r.name ++
  ",\n    \"major\": " ++ wordText r.major ++
  ",\n    \"minor\": " ++ wordText r.minor ++
  ",\n    \"patch\": " ++ wordText r.patch ++
  ",\n    \"build\": " ++ wordText r.build ++ "\n\x7d\n"

/-- The fields of a record read so far. -/
structure RecordFields where
  name : Option String := none
  major : Option UInt32 := none
  minor : Option UInt32 := none
  patch : Option UInt32 := none
  build : Option UInt32 := none

def recordExpectation : String := "struct VersionRecord"

/-- Reads the value of one word field unless it was given before. -/
def readWordField (seen : Option UInt32) (key : String) (store : UInt32 → RecordFields) :
    Scan (Except Problem RecordFields) := do
  match seen with
  | some _ => return .error (.duplicateField key)
  | none => do objectColon; return .ok (store (← readWord32))

def recordMember (fs : RecordFields) (key : String) : Scan (Except Problem RecordFields) := do
  if key == "name" then
    match fs.name with
    | some _ => return .error (.duplicateField "name")
    | none => do objectColon; return .ok { fs with name := some (← readText) }
  else if key == "major" then readWordField fs.major key (fun v => { fs with major := some v })
  else if key == "minor" then readWordField fs.minor key (fun v => { fs with minor := some v })
  else if key == "patch" then readWordField fs.patch key (fun v => { fs with patch := some v })
  else if key == "build" then readWordField fs.build key (fun v => { fs with build := some v })
  else do objectColon; skipValue (← get).length.succ; return .ok fs

/-- The record from complete fields; the first missing field is named. -/
def RecordFields.finish (fs : RecordFields) : Except Problem Record :=
  match fs.name, fs.major, fs.minor, fs.patch, fs.build with
  | some n, some a, some b, some c, some d => .ok ⟨n, a, b, c, d⟩
  | none, _, _, _, _ => .error (.missingField "name")
  | _, none, _, _, _ => .error (.missingField "major")
  | _, _, none, _, _ => .error (.missingField "minor")
  | _, _, _, none, _ => .error (.missingField "patch")
  | _, _, _, _, none => .error (.missingField "build")

def readRecordObject : Scan (Except Problem Record) := do
  match ← foldMembers recordMember ((← get).length + 1) true {} with
  | .ok fs => return fs.finish
  | .error p => return .error p

/-- Reads the next element of a record array with `read`, or reports the array short
after `index` elements. -/
def recordElement {α : Type} (index : Nat) (read : Scan α) : Scan (Except Problem α) := do
  if ← nextElement (index == 0) then return .ok (← read)
  else return .error (.invalidLength index (recordExpectation ++ " with 5 elements"))

def readRecordArray : Scan (Except Problem Record) := do
  match ← recordElement 0 readText with
  | .error p => return .error p
  | .ok n =>
  match ← recordElement 1 readWord32 with
  | .error p => return .error p
  | .ok a =>
  match ← recordElement 2 readWord32 with
  | .error p => return .error p
  | .ok b =>
  match ← recordElement 3 readWord32 with
  | .error p => return .error p
  | .ok c =>
  match ← recordElement 4 readWord32 with
  | .error p => return .error p
  | .ok d => return .ok ⟨n, a, b, c, d⟩

/-- Reads a record from JSON text; the error is the reader's full message. -/
def Record.parseJson (text : String) : Except String Record :=
  runReader (readRecord recordExpectation readRecordObject readRecordArray) text

end FirmwareStamp.Version
