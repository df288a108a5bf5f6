import FirmwareStamp.Cli.Args
import FirmwareStamp.Disk.Ops
import FirmwareStamp.Toml.Parse

/-!
The configuration file: a TOML document whose values fill the options the command line
left out. Its top level holds the program's options (`log-level`, `log-format`,
`log-file`, `project-dir`, `color`); the table `hooks` holds the options of the
build-hook commands and the table `join` those of the join command. A value of the
wrong kind is an error, but only where it would be used. The file is the one named on
the command line, else `buildstamp.toml` in the project directory, else the one in the
user's configuration directory.
-/

namespace FirmwareStamp.Cli

/-- Why the configuration could not be used. -/
inductive ConfigError where
  | notFound (path : String)
  | parse (path : String) (reason : String)
  | io (path : String) (cause : IoError)
  | invalidValue (key : String) (expected : String)
  | missingEnvironment
deriving DecidableEq, Repr

def ConfigError.message : ConfigError → String
  | .notFound p => "The specified configuration file does not exist: " ++ p
  | .parse p reason => "Error parsing configuration file " ++ p ++ ": " ++ reason
  | .io p cause => "Error reading configuration file " ++ p ++ ": " ++ cause.message
  | .invalidValue key expected =>
    "Invalid value for '" ++ key ++ "' in configuration file: expected " ++ expected
  | .missingEnvironment => "No build environment given; pass --env or set 'env' under [hooks]"

def configFileName : String := "buildstamp.toml"

abbrev Table := List (String × Toml.Value)

def tableAt (t : Table) (key : String) : Except ConfigError (Option Table) :=
  match Toml.lookup t key with
  | none => .ok none
  | some v =>
    match v.asTable? with
    | some s => .ok (some s)
    | none => .error (.invalidValue key "a table")

def flagAt (t : Table) (key : String) : Except ConfigError (Option Bool) :=
  match Toml.lookup t key with
  | none => .ok none
  | some v =>
    match v.asBool? with
    | some b => .ok (some b)
    | none => .error (.invalidValue key "a boolean")

/-- Fills a text option from a key unless it is set; `expected` names the kind. -/
def fillWith (expected : String) (t : Table) (key : String) (current : Option String) :
    Except ConfigError (Option String) :=
  match current with
  | some v => .ok (some v)
  | none =>
    match Toml.lookup t key with
    | none => .ok none
    | some v =>
      match v.asStr? with
      | some s => .ok (some s)
      | none => .error (.invalidValue key expected)

def fillText := fillWith "a string"

def fillPath := fillWith "a path string"

def textsAt (t : Table) (key : String) : Except ConfigError (List String) :=
  match Toml.lookup t key with
  | none => .ok []
  | some v =>
    match v.asStr? with
    | some s => .ok [s]
    | none =>
      match v.asArray? with
      | none => .error (.invalidValue key "a string or an array of strings")
      | some items =>
        items.mapM fun item =>
          match item.asStr? with
          | some s => .ok s
          | none => .error (.invalidValue key "an array of strings")

def HookOptions.fill (h : HookOptions) (t : Table) : Except ConfigError HookOptions := do
  let env ← fillText t "env" h.env
  let name ← fillText t "name" h.name
  let versionFile ← fillPath t "version-file" h.versionFile
  let header ← fillPath t "header" h.header
  let packageManifest ← fillPath t "package-manifest" h.packageManifest
  let buildDir ← fillPath t "build-dir" h.buildDir
  let firmware ← fillPath t "firmware" h.firmware
  let mainObject ← fillPath t "main-object" h.mainObject
  let outputDir ← fillPath t "output-dir" h.outputDir
  return { env, name, versionFile, header, packageManifest, buildDir, firmware, mainObject,
           outputDir }

def fillJoin (j : Join.Request) (t : Table) : Except ConfigError Join.Request := do
  let control ← fillPath t "ctrl" j.control
  let source ← fillPath t "src" j.source
  let target ← fillPath t "target" j.target
  let masks ← if j.masks.isEmpty then textsAt t "masks" else pure j.masks
  let sort ← if j.sort then pure true else (fun b => b.getD false) <$> flagAt t "sort"
  return { control, source, target, masks, sort }

def fillCommand (c : Command) (t : Table) : Except ConfigError Command := do
  match c with
  | .preBuild h => return .preBuild (← fillHooks h)
  | .postBuild h => return .postBuild (← fillHooks h)
  | .show h => return .show (← fillHooks h)
  | .join j =>
    match ← tableAt t "join" with
    | some s => return .join (← fillJoin j s)
    | none => return .join j
where
  fillHooks (h : HookOptions) : Except ConfigError HookOptions := do
    match ← tableAt t "hooks" with
    | some s => h.fill s
    | none => return h

/-- Fills the options a command line left out from a configuration table. -/
def Args.applyConfig (a : Args) (t : Table) : Except ConfigError Args := do
  let logLevel ← fillText t "log-level" a.logLevel
  let logFormat ← fillText t "log-format" a.logFormat
  let logFile ← fillPath t "log-file" a.logFile
  let projectDir ← fillPath t "project-dir" a.projectDir
  let (color, noColor) ← do
    match ← flagAt t "color" with
    | some c => pure (if !a.color && !a.noColor then (c, !c) else (a.color, a.noColor))
    | none => pure (a.color, a.noColor)
  let command ← match a.command with
    | some c => some <$> fillCommand c t
    | none => pure none
  return { a with logLevel, logFormat, logFile, projectDir, color, noColor, command }

/-- The configuration file in effect: the one named (which must be a file), else the
project's, else the user's, if they are files. -/
def Args.discoverConfig (a : Args) (d : Disk) (userDir : Option String) :
    Except ConfigError (Option String) :=
  match a.configFile with
  | some p => if d.isFile p then .ok (some p) else .error (.notFound p)
  | none =>
    let inProject := Path.join a.projectDirOrCurrent configFileName
    if d.isFile inProject then .ok (some inProject)
    else
      match userDir with
      | some dir =>
        let user := Path.join (Path.join dir "Buildstamp") configFileName
        .ok (if d.isFile user then some user else none)
      | none => .ok none

/-- Reads the configuration file in effect into the options; returns the options and
the file used. -/
def Args.loadConfig (a : Args) (d : Disk) (userDir : Option String) :
    Except ConfigError (Args × Option String) := do
  match ← a.discoverConfig d userDir with
  | none => return (a, none)
  | some path =>
    let text ← match d.readText path with
      | .ok t => pure t
      | .error e => throw (.io path e)
    let table ← match Toml.parse text with
      | .ok t => pure t
      | .error m => throw (.parse path m)
    return (← a.applyConfig table, some path)

end FirmwareStamp.Cli
