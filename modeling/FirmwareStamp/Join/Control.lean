import FirmwareStamp.Disk.Ops
import FirmwareStamp.Json.Decode
import FirmwareStamp.Join.Error

/-!
The control file of a join and the plan it leads to. A control file is a JSON object
with the masks under `files` (required), the target under `targetfile` and a `sort`
flag, or an array of those three in order where the last two may be left out. The plan
takes masks and target from the command line when given there, else from the control
file, else the defaults; it sorts when either side asks.
-/

namespace FirmwareStamp.Join

open FirmwareStamp.Json

/-- What a control file says. -/
structure Control where
  files : List String
  targetFile : Option String
  sort : Bool
deriving DecidableEq, Repr

/-- The masks used when neither the command line nor a control file gives any. -/
def defaultMasks : List String := ["*.py2"]

/-- The target used when neither the command line nor a control file gives one. -/
def defaultTarget : String := "_out.join"

def Control.default : Control := ⟨defaultMasks, none, false⟩

/-- The fields of a control object read so far. -/
structure ControlFields where
  files : Option (List String) := none
  targetFile : Option (Option String) := none
  sort : Option Bool := none

def controlExpectation : String := "struct ControlManifest"

def controlMember (fs : ControlFields) (key : String) : Scan (Except Problem ControlFields) := do
  if key == "files" then
    match fs.files with
    | some _ => return .error (.duplicateField key)
    | none => do objectColon; return .ok { fs with files := some (← readTextList ((← get).length + 1)) }
  else if key == "targetfile" then
    match fs.targetFile with
    | some _ => return .error (.duplicateField key)
    | none => do objectColon; return .ok { fs with targetFile := some (← readOptionalText) }
  else if key == "sort" then
    match fs.sort with
    | some _ => return .error (.duplicateField key)
    | none => do objectColon; return .ok { fs with sort := some (← readFlag) }
  else do objectColon; skipValue (← get).length.succ; return .ok fs

def readControlObject : Scan (Except Problem Control) := do
  match ← foldMembers controlMember ((← get).length + 1) true {} with
  | .error p => return .error p
  | .ok fs =>
    match fs.files with
    | none => return .error (.missingField "files")
    | some files => return .ok ⟨files, fs.targetFile.getD none, fs.sort.getD false⟩

def readControlArray : Scan (Except Problem Control) := do
  if !(← nextElement true) then
    return .error (.invalidLength 0 (controlExpectation ++ " with 3 elements"))
  let files ← readTextList ((← get).length + 1)
  let target ← if ← nextElement false then readOptionalText else pure none
  let sort ← if ← nextElement false then readFlag else pure false
  return .ok ⟨files, target, sort⟩

/-- Reads a control manifest from JSON text; the error is the reader's full message. -/
def Control.parseJson (text : String) : Except String Control :=
  runReader (readRecord controlExpectation readControlObject readControlArray) text

/-- Reads the control file at a path, which must be a regular file. -/
def Control.load (d : Disk) (path : String) : Except JoinError Control :=
  if !d.isFile path then .error (.controlMissing path)
  else
    match d.readText path with
    | .error e => .error (.controlInvalid path e.message)
    | .ok text =>
      match Control.parseJson text with
      | .ok c => .ok c
      | .error m => .error (.controlInvalid path m)

/-- What a join does: the masks in order, the target and whether matches are sorted. -/
structure Plan where
  masks : List String
  targetFile : String
  sort : Bool
deriving DecidableEq, Repr

/-- The plan from a control file (if any) and the command line. -/
def Plan.resolve (control : Option Control) (masks : List String) (target : Option String)
    (sort : Bool) : Plan :=
  let c := control.getD Control.default
  { masks := if masks.isEmpty then c.files else masks
    targetFile := target.getD (c.targetFile.getD defaultTarget)
    sort := sort || c.sort }

end FirmwareStamp.Join
