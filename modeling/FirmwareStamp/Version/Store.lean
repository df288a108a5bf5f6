import FirmwareStamp.Disk.Action
import FirmwareStamp.Version.Error
import FirmwareStamp.Version.Json
import FirmwareStamp.Version.Header

/-!
The version file and the header file on disk. Loading a version file that is not there
creates it with the initial record under the default name; loading one that is there
reads its text and decodes the record. Saving makes the directories above the file,
then writes the pretty text. The header file is written the same way, and bootstrapping
writes it only when no file is there.
-/

namespace FirmwareStamp.Version

/-- A version file and the name a new record gets. -/
structure Store where
  path : String
  defaultName : String
deriving DecidableEq, Repr

/-- Makes the directories above a file; nothing to do when the file has no parent. -/
def makeParents {ε : Type} (path : String) (wrap : String → IoError → ε) : Action ε Unit :=
  match Path.parent? path with
  | some par => if par.isEmpty then pure () else Action.attemptPartly (·.createDirAll par) (wrap par)
  | none => pure ()

/-- Writes a text to a file, making the directories above it first. -/
def writeFile (path text : String) : Action VersionError Unit := do
  makeParents path VersionError.io
  Action.attempt (·.writeText path text) (.io path)

namespace Store

def exists? {ε : Type} (s : Store) : Action ε Bool := Action.query (·.isFile s.path)

def save (s : Store) (r : Record) : Action VersionError Unit :=
  writeFile s.path r.renderJson

/-- The record in the version file; a missing file is created with the initial record. -/
def load (s : Store) : Action VersionError Record := do
  let d ← get
  if !d.present s.path then
    let r := Record.initial s.defaultName
    s.save r
    return r
  match d.readText s.path with
  | .error e => throw (.corrupt s.path e.message)
  | .ok text =>
    match Record.parseJson text with
    | .ok r => return r
    | .error m => throw (.corrupt s.path m)

def loadExisting (s : Store) : Action VersionError Record := do
  if !(← get).present s.path then throw (.missing s.path)
  s.load

end Store

def project (path : String) (r : Record) : Action VersionError Unit :=
  writeFile path (renderHeader r)

/-- Writes the header file when no regular file is there; tells whether it wrote. -/
def bootstrap (path : String) (r : Record) : Action VersionError Bool := do
  if (← get).isFile path then return false
  project path r
  return true

/-- Removes a compiled object so that the next build compiles it again; tells whether
there was one. -/
def forceRecompile (path : String) : Action VersionError Bool := do
  match (← get).removeFile path with
  | .ok d => set d; return true
  | .error .notFound => return false
  | .error e => throw (.io path e)

end FirmwareStamp.Version
