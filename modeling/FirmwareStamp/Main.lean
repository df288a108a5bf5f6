import FirmwareStamp.Cli.Run

/-!
The command line. The arguments are read against the program's grammar: help and
version go to standard output, a reading error to the error stream with status 2.
Otherwise the command runs on a disk model of the project: the files of the project are
named on standard input, one path per line relative to the working directory (as `find .`
prints them), together with the user's configuration file if there is one. After the
run, the files and directories the run made or changed are written back, and the files
it removed are removed.
-/

namespace FirmwareStamp.Shell

/-- The path pieces of a relative path text, `.` pieces dropped. -/
def relativePieces (s : String) : List String :=
  (Disk.pieces s).filter (· != ".")

/-- The disk with a directory at every proper prefix of a path. -/
def withParents (d : Disk) (p : List String) : Disk :=
  (List.range p.length).foldl
    (fun d i =>
      let q := p.take i
      if q.isEmpty || (d.node? q).isSome then d else d.put q .dir)
    d

partial def readLines (s : IO.FS.Stream) (acc : Array String) : IO (Array String) := do
  let line ← s.getLine
  if line.isEmpty then return acc
  readLines s (acc.push (String.ofList (line.toList.filter (· != '\n'))))

/-- Adds a path of the real disk to the model: a file with its bytes, else a directory. -/
def load (d : Disk) (p : List String) : IO Disk := do
  let d := withParents d p
  match ← (IO.FS.readBinFile (Disk.physicalText p)).toBaseIO with
  | .ok bytes => return d.put p (.file bytes.toList)
  | .error _ => return d.put p .dir

def store (before after : Disk) : IO Unit := do
  for (p, n) in after.entries do
    if before.node? p != some n then
      match n with
      | .dir => IO.FS.createDirAll (Disk.physicalText p)
      | .file data => IO.FS.writeBinFile (Disk.physicalText p) (ByteArray.mk data.toArray)
      | .link _ => pure ()
  for (p, n) in before.entries do
    if (after.node? p).isNone then
      match n with
      | .file _ => IO.FS.removeFile (Disk.physicalText p)
      | _ => pure ()

def userConfigDir : IO (Option String) := do
  match ← IO.getEnv "XDG_CONFIG_HOME" with
  | some dir => if Path.hasRoot dir then return some dir else fallback
  | none => fallback
where
  fallback : IO (Option String) := do
    return (← IO.getEnv "HOME").map (· ++ "/.config")

end FirmwareStamp.Shell

open FirmwareStamp in
/-- Runs the program on the command line's arguments. -/
def main (argv : List String) : IO UInt32 := do
  match Cli.parseArgs argv with
  | .error e =>
    if e.kind == .displayHelp || e.kind == .displayVersion then
      IO.print e.message
      return 0
    else
      IO.eprint e.message
      return 2
  | .ok args =>
    let cwd := Disk.pieces ((← IO.getEnv "PWD").getD "/")
    let mut d := Disk.withWorkDir cwd
    for line in ← Shell.readLines (← IO.getStdin) #[] do
      let rel := Shell.relativePieces line
      if !rel.isEmpty then d ← Shell.load d (cwd ++ rel)
    let configDir ← Shell.userConfigDir
    if let some dir := configDir then
      let file := Disk.pieces (Path.join (Path.join dir "Buildstamp") Cli.configFileName)
      match ← (IO.FS.readBinFile (Disk.physicalText file)).toBaseIO with
      | .ok _ => d ← Shell.load d file
      | .error _ => pure ()
    let env : Cli.Environment := ⟨configDir, ⟨"unknown", "unknown"⟩⟩
    let (outcome, after) := (Cli.run env args).run d
    Shell.store d after
    IO.print outcome.stdout
    return outcome.exitCode.toUInt32
