import FirmwareStamp.Disk.Basic

/-!
What goes wrong when files are joined: the control file is missing or not a control
manifest, a mask is not a valid pattern, a matched file cannot be read, or the target
cannot be written.
-/

namespace FirmwareStamp.Join

/-- Why joining files failed. -/
inductive JoinError where
  | controlMissing (path : String)
  | controlInvalid (path : String) (reason : String)
  | invalidPattern (mask : String) (reason : String)
  | sourceUnreadable (path : String) (cause : IoError)
  | targetUnwritable (path : String) (cause : IoError)
deriving DecidableEq, Repr

def JoinError.message : JoinError → String
  | .controlMissing p => "Control file does not exist: " ++ p
  | .controlInvalid p reason => "Invalid control file " ++ p ++ ": " ++ reason
  | .invalidPattern mask reason => "Invalid file mask '" ++ mask ++ "': " ++ reason
  | .sourceUnreadable p cause => "Cannot read source file " ++ p ++ ": " ++ cause.message
  | .targetUnwritable p cause => "Cannot write target file " ++ p ++ ": " ++ cause.message

end FirmwareStamp.Join
