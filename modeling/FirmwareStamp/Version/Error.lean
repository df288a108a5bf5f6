import FirmwareStamp.Version.Reconcile
import FirmwareStamp.Disk.Basic

/-!
What goes wrong with the version file and with publishing a build product, and how it
is reported. A version file that is missing, unreadable or not a record is one kind of
error whose text says which; a full build counter and a failed disk operation are the
others. Publishing fails when the product is missing, when the version file fails, or
when copying fails.
-/

namespace FirmwareStamp.Version

/-- Why the version file could not be used. -/
inductive VersionError where
  /-- The version file is not there and is not created here. -/
  | missing (path : String)
  /-- The version file cannot be read or does not hold a record; `cause` says why. -/
  | corrupt (path : String) (cause : String)
  /-- A release build was asked for with the build counter at its maximum. -/
  | exhausted (e : CounterExhausted)
  /-- A disk operation on `path` failed. -/
  | io (path : String) (cause : IoError)
deriving DecidableEq, Repr

def VersionError.message : VersionError → String
  | .missing p => "Version file " ++ p ++ " does not exist; the pre-build hook creates it"
  | .corrupt p cause => "Version file " ++ p ++ " is unreadable or corrupt: " ++ cause
  | .exhausted e =>
    "Build counter of '" ++ e.name ++ "' is at its maximum (" ++ wordText e.build ++
      "); lower it in the version file"
  | .io p cause => "IO error on " ++ p ++ ": " ++ cause.message

/-- Why a build product could not be published. -/
inductive PublishError where
  /-- The build product is not a file. -/
  | productMissing (path : String)
  /-- The version file failed. -/
  | version (e : VersionError)
  /-- Copying the product towards `dst` failed. -/
  | copyFailed (src dst : String) (cause : IoError)
deriving DecidableEq, Repr

/-- The text of a publishing error; a version error keeps its own text. -/
def PublishError.message : PublishError → String
  | .productMissing p => "Build product not found: " ++ p
  | .version e => e.message
  | .copyFailed src dst cause => "Failed to copy " ++ src ++ " to " ++ dst ++ ": " ++ cause.message

end FirmwareStamp.Version
