import FirmwareStamp.Join.Aggregate

/-!
What a command line asks for: the options that hold for every command (configuration
file, project directory, logging and colour), and one of the commands with its own
options. The three build-hook commands share their options; joining has its own. A log
level given by name wins over the one counted from `-v` and `-q`.
-/

namespace FirmwareStamp.Cli

/-- The options of the build-hook commands; each may also come from the configuration
file. -/
structure HookOptions where
  env : Option String := none
  name : Option String := none
  versionFile : Option String := none
  header : Option String := none
  packageManifest : Option String := none
  buildDir : Option String := none
  firmware : Option String := none
  mainObject : Option String := none
  outputDir : Option String := none
deriving DecidableEq, Repr

/-- A command of the command line. -/
inductive Command where
  | preBuild (h : HookOptions)
  | postBuild (h : HookOptions)
  | join (j : Join.Request)
  | show (h : HookOptions)
deriving DecidableEq, Repr

def Command.name : Command → String
  | .preBuild _ => "pre-build"
  | .postBuild _ => "post-build"
  | .join _ => "join"
  | .show _ => "show"

/-- A parsed command line. -/
structure Args where
  configFile : Option String := none
  projectDir : Option String := none
  logLevel : Option String := none
  logFormat : Option String := none
  logFile : Option String := none
  color : Bool := false
  noColor : Bool := false
  verbose : UInt8 := 0
  quiet : UInt8 := 0
  command : Option Command := none
deriving DecidableEq, Repr

def logLevels : List String := ["off", "error", "warn", "info", "debug", "trace"]

/-- The log level counted from `info`: one step louder per `-v`, one quieter per `-q`,
held between `off` and `trace`. -/
def levelFromVerbosity (verbose quiet : UInt8) : String :=
  let index : Int := 3 + verbose.toNat - quiet.toNat
  logLevels.getD (max 0 (min 5 index)).toNat "info"

namespace Args

def effectiveLogLevel (a : Args) : String :=
  a.logLevel.getD (levelFromVerbosity a.verbose a.quiet)

/-- Whether output is coloured: asked for and not refused (the error stream is never a
terminal here). -/
def useColor (a : Args) : Bool := !a.noColor && a.color

def logFilePath (a : Args) : Option String :=
  a.logFile.filter fun p => !(p.toList.map Char.toLower == "none".toList || p == "-")

/-- The project directory, the working directory by default. -/
def projectDirOrCurrent (a : Args) : String := a.projectDir.getD "."

end Args

end FirmwareStamp.Cli
