import FirmwareStamp.Cli.Show
import FirmwareStamp.Cli.Parse
import FirmwareStamp.Log.Spec
import FirmwareStamp.Log.File

/-!
Running a parsed command line. The configuration file is read first; then logging is set
up, which makes the directories above a log file; then the command runs: the build hooks on the hook configuration, `show` printing its report, and the
join. The outcome is an exit status and what was printed: 0 for success, 1 for any
failure, 2 when no command was given. Error texts go to the error stream, which is not
part of the outcome.
-/

namespace FirmwareStamp.Cli

open FirmwareStamp.Hook

/-- What a run depends on besides the disk: the user's configuration directory and the
program's build. -/
structure Environment where
  userConfigDir : Option String
  build : BuildInfo
deriving DecidableEq, Repr

/-- How a run ended: its exit status and its printed output. -/
structure Outcome where
  exitCode : Nat
  stdout : String
deriving DecidableEq, Repr

/-- The exit status of a step: 0 when it succeeds, 1 when it fails. -/
def statusOf {ε α : Type} (a : Action ε α) : StateM Disk Outcome := do
  match ← ExceptT.run a with
  | .ok _ => return ⟨0, ""⟩
  | .error _ => return ⟨1, ""⟩

/-- Prepares logging to a file: when the log level in effect is a valid specification and
the log file's path is no directory and names a file (see `Log.namesFile`), the
directories above the file are made. Failures are ignored; the logger itself never starts
here, so the file is not written. -/
def prepareLogFile (args : Args) : StateM Disk Unit := do
  match Log.Spec.parse? args.effectiveLogLevel, args.logFilePath with
  | some _, some path =>
    let d ← get
    if d.isDir path then return
    match Log.fileDirectory? path with
    | some dir => set (d.createDirAll dir).1
    | none => return
  | _, _ => return

/-- Runs a parsed command line on the disk. -/
def run (env : Environment) (args : Args) : StateM Disk Outcome := do
  match args.loadConfig (← get) env.userConfigDir with
  | .error _ => return ⟨1, ""⟩
  | .ok (args, _) =>
    prepareLogFile args
    match args.command with
    | none => return ⟨2, ""⟩
    | some (.join j) => statusOf j.run
    | some command =>
      let hooks := match command with
        | .preBuild h | .postBuild h | .show h => h
        | .join _ => {}
      match HookConfig.ofOptions (← get) args.projectDirOrCurrent hooks with
      | .error _ => return ⟨1, ""⟩
      | .ok c =>
        match command with
        | .preBuild _ => statusOf c.beforeMainCompile
        | .postBuild _ => statusOf c.afterBuildProduct
        | _ =>
          match ← ExceptT.run (renderShow env.build c args.useColor) with
          | .ok text => return ⟨0, text⟩
          | .error _ => return ⟨1, ""⟩

end FirmwareStamp.Cli
