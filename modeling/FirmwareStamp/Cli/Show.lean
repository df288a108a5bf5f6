import FirmwareStamp.Hook.Config
import FirmwareStamp.Cli.Spec

/-!
The `show` report: the program's version and build, the project's name and version
(the initial one when no version file exists yet), where the version file and the
header are (marked when missing), and the name a release image would be published
under. With colour on, the labels are bold.
-/

namespace FirmwareStamp.Cli

open FirmwareStamp.Version FirmwareStamp.Hook

/-- Where and when the program was built. -/
structure BuildInfo where
  gitHash : String
  builtAt : String
deriving DecidableEq, Repr

def label (color : Bool) (text : String) : String :=
  if color then "\x1b[1m" ++ text ++ "\x1b[0m" else text

def renderShow (info : BuildInfo) (c : HookConfig) (color : Bool) :
    Action VersionError String := do
  let d ← get
  let (record, stored) ←
    if d.isFile c.versionFile then do pure ((← c.store.load), true)
    else pure (Record.initial c.projectName, false)
  let d ← get
  let presence := fun (p : String) => if d.isFile p then "" else " (missing)"
  let l := label color
  return l programName ++ " " ++ programVersion ++ " (git " ++ info.gitHash ++ ", built " ++
      info.builtAt ++ ")\n" ++
    l "Name:" ++ "     " ++ record.name ++ "\n" ++
    l "Version:" ++ "  " ++ record.longString ++
      (if stored then "" else " (default, not yet created)") ++ "\n" ++
    l "Record:" ++ "   " ++ c.versionFile ++ presence c.versionFile ++ "\n" ++
    l "Header:" ++ "   " ++ c.headerFile ++ presence c.headerFile ++ "\n" ++
    l "Artifact:" ++ " " ++ Path.join c.outputDir (artifactFileName c.target (some record)) ++ "\n"

end FirmwareStamp.Cli
