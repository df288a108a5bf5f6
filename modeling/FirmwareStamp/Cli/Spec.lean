/-!
The grammar of the command line as data: each command with its options, and the help
page drawn from it. An option has a long name, maybe a one-letter name and visible
aliases, a help line, a place in the listing, and what it does when it is given: set a
flag, count, take one value (free text, a path, or one of a few choices), take one or
more values, or show help or the version. Options of the whole program are repeated in
every command. The help page lists the commands and the options, each in its listing
order, the names in one column padded to the longest.
-/

namespace FirmwareStamp.Cli

/-- What kind of value an option takes. -/
inductive ValueKind where
  | text
  | path
  | choice (values : List String)
deriving DecidableEq, Repr

/-- What an option does when it is given. -/
inductive Behavior where
  | flag
  | count
  | single (placeholder : String) (kind : ValueKind)
  | several (placeholder : String)
  | help
  | version
deriving DecidableEq, Repr

/-- One option of a command. -/
structure Opt where
  id : String
  long : String
  short : Option Char := none
  aliases : List String := []
  help : String
  action : Behavior
  order : Nat
  global : Bool := false
  conflicts : List String := []
deriving DecidableEq, Repr

/-- A command: the words that call it, a line about it, its options and the commands
below it (name, line about it and listing order). -/
structure Spec where
  path : String
  about : String
  options : List Opt
  subcommands : List (String × String × Nat) := []
  /-- Free words the command takes after its options, for the usage line. -/
  operands : Option (String × String) := none
deriving DecidableEq, Repr

namespace Opt

def takesValue (o : Opt) : Bool :=
  match o.action with
  | .single _ _ | .several _ => true
  | _ => false

def choices (o : Opt) : List String :=
  match o.action with
  | .single _ (.choice vs) => vs
  | _ => []

/-- How an option is written after its name: its placeholder, `...` when it repeats. -/
def suffix (o : Opt) : String :=
  match o.action with
  | .single p _ => " <" ++ p ++ ">"
  | .several p => " <" ++ p ++ ">..."
  | .count => "..."
  | _ => ""

def display (o : Opt) : String := "--" ++ o.long ++ o.suffix

def column (o : Opt) : String :=
  (match o.short with
   | some c => "-" ++ c.toString ++ ", "
   | none => "    ") ++ "--" ++ o.long ++ o.suffix

/-- The help column of an option: its line, then its aliases or its choices. -/
def helpColumn (o : Opt) : String :=
  let aliases :=
    match o.aliases with
    | [] => []
    | [a] => ["[alias: --" ++ a ++ "]"]
    | as => ["[aliases: " ++ ", ".intercalate (as.map ("--" ++ ·)) ++ "]"]
  let choices :=
    match o.choices with
    | [] => []
    | vs => ["[possible values: " ++ ", ".intercalate vs ++ "]"]
  " ".intercalate (o.help :: (aliases ++ choices))

/-- The key that orders options within one listing place: a one-letter name (lower
case first), else the long name. -/
def sortKey (o : Opt) : String :=
  match o.short with
  | some c => c.toLower.toString ++ (if c.isLower then "0" else "1")
  | none => o.long

def before (a b : Opt) : Bool :=
  a.order < b.order || (a.order == b.order && a.sortKey ≤ b.sortKey)

end Opt

def padTo (width : Nat) (s : String) : String :=
  s ++ String.ofList (List.replicate (width - s.length) ' ')

def twoColumns (rows : List (String × String)) : List String :=
  let width := rows.foldl (fun w r => max w r.1.length) 0
  rows.map fun (a, b) => "  " ++ padTo width a ++ "  " ++ b

/-- Whether a command has options other than help and version. -/
def Spec.hasPlainOptions (s : Spec) : Bool :=
  s.options.any fun o => o.action != .help && o.action != .version

def Spec.usage (s : Spec) : String :=
  let parts := [s.path] ++
    (if s.hasPlainOptions then ["[OPTIONS]"] else []) ++
    (match s.operands with
     | some (name, _) => [name]
     | none => []) ++
    (if s.subcommands.isEmpty then [] else ["[COMMAND]"])
  " ".intercalate parts

def Spec.helpPage (s : Spec) : String :=
  let commands :=
    if s.subcommands.isEmpty then []
    else
      let sorted := s.subcommands.mergeSort fun a b =>
        a.2.2 < b.2.2 || (a.2.2 == b.2.2 && a.1 ≤ b.1)
      ["Commands:\n" ++ "\n".intercalate (twoColumns (sorted.map fun c => (c.1, c.2.1)))]
  let operands :=
    match s.operands with
    | some (name, help) => ["Arguments:\n" ++ "\n".intercalate (twoColumns [(name, help)])]
    | none => []
  let options :=
    if s.options.isEmpty then []
    else
      let sorted := s.options.mergeSort Opt.before
      ["Options:\n" ++ "\n".intercalate (twoColumns (sorted.map fun o => (o.column, o.helpColumn)))]
  s.about ++ "\n\nUsage: " ++ s.usage ++ "\n\n" ++
    "\n\n".intercalate (commands ++ operands ++ options) ++ "\n"

/-! ### The grammar of this program -/

def programName : String := "buildstamp"

def programVersion : String := "0.1.0"

def globalOptions : List Opt := [
  { id := "config_file", long := "config-file", short := some 'c', order := 0, global := true,
    help := "Configuration file path (default: <project-dir>/buildstamp.toml if present)",
    action := .single "FILE" .path },
  { id := "project_dir", long := "project-dir", short := some 'd', order := 1, global := true,
    help := "Project root; relative hook paths resolve against it",
    action := .single "DIR" .path },
  { id := "log_level", long := "log-level", short := some 'l', order := 2, global := true,
    help := "Log level (overrides -v/-q)",
    action := .single "LEVEL" (.choice ["trace", "debug", "info", "warn", "error", "off"]) },
  { id := "log_format", long := "log-format", short := some 'o', order := 3, global := true,
    help := "Log output format",
    action := .single "FORMAT" (.choice ["text", "ext", "json"]) },
  { id := "log_file", long := "log-file", short := some 'f', order := 4, global := true,
    help := "Log file path (use 'none' to disable file logging)",
    action := .single "FILE" .path },
  { id := "color", long := "color", order := 5, global := true, conflicts := ["no_color"],
    help := "Force colored output", action := .flag },
  { id := "no_color", long := "no-color", order := 6, global := true,
    help := "Disable colored output", action := .flag },
  { id := "verbose", long := "verbose", short := some 'v', order := 7, global := true,
    help := "More output (repeatable)", action := .count },
  { id := "quiet", long := "quiet", short := some 'q', order := 8, global := true,
    help := "Less output (repeatable)", action := .count }]

def helpOption : Opt :=
  { id := "help", long := "help", short := some 'h', order := 999, help := "Print help",
    action := .help }

def versionOption : Opt :=
  { id := "version", long := "version", short := some 'V', order := 999,
    help := "Print version", action := .version }

def hookOptions : List Opt := [
  { id := "env", long := "env", short := some 'e', order := 0,
    help := "Build environment name; a `_debug` suffix marks a debug build",
    action := .single "NAME" .text },
  { id := "name", long := "name", order := 1,
    help := "Project name for a newly created version file", action := .single "NAME" .text },
  { id := "version_file", long := "version-file", order := 2,
    help := "Persisted version record", action := .single "FILE" .path },
  { id := "header", long := "header", order := 3,
    help := "Generated constants header", action := .single "FILE" .path },
  { id := "package_manifest", long := "package-manifest", order := 4,
    help := "External package descriptor whose `version` is synced into the record",
    action := .single "FILE" .path },
  { id := "build_dir", long := "build-dir", order := 5,
    help := "Build directory of the environment", action := .single "DIR" .path },
  { id := "firmware", long := "firmware", order := 6,
    help := "Build product to publish", action := .single "FILE" .path },
  { id := "main_object", long := "main-object", order := 7,
    help := "Cached object of the main translation unit", action := .single "FILE" .path },
  { id := "output_dir", long := "output-dir", order := 8,
    help := "Directory receiving published images", action := .single "DIR" .path }]

def joinOptions : List Opt := [
  { id := "control_file", long := "ctrl", aliases := ["control-file"], order := 0,
    help := "Control file with the mask list and target name", action := .single "FILE" .path },
  { id := "source_dir", long := "src", aliases := ["source-dir"], order := 1,
    help := "Directory the masks are expanded in (default: current directory)",
    action := .single "DIR" .path },
  { id := "target_file", long := "target", short := some 't', aliases := ["target-file"],
    order := 2, help := "Target file (overrides the control file)",
    action := .single "FILE" .path },
  { id := "masks", long := "mask", short := some 'm', aliases := ["file-mask"], order := 3,
    help := "File masks; replaces the control file's list when given",
    action := .several "MASK" },
  { id := "sort", long := "sort", order := 4,
    help := "Sort the matches of each mask by path", action := .flag }]

/-- The commands below the program, with their lines and listing places. -/
def commandList : List (String × String × Nat) := [
  ("pre-build", "Reconcile the version record before the main source is compiled", 9),
  ("post-build", "Copy the finished firmware image into the output directory", 10),
  ("join", "Join files selected by masks into one target file", 11),
  ("show", "Print the current version record and derived names", 12),
  ("help", "Print this message or the help of the given subcommand(s)", 999)]

def topSpec : Spec :=
  { path := programName
    about := "Firmware version stamping and file joining for build hooks"
    options := globalOptions ++ [helpOption, versionOption]
    subcommands := commandList }

def commandSpec (name : String) : Option Spec :=
  let about := (commandList.find? (·.1 == name)).map (·.2.1)
  let own :=
    if name == "join" then some joinOptions
    else if name == "pre-build" || name == "post-build" || name == "show" then some hookOptions
    else none
  match about, own with
  | some a, some opts =>
    some { path := programName ++ " " ++ name, about := a,
           options := opts ++ globalOptions ++ [helpOption] }
  | some a, none =>
    some { path := programName ++ " " ++ name, about := a, options := [],
           operands := some ("[COMMAND]...", "Print help for the subcommand(s)") }
  | none, _ => none

end FirmwareStamp.Cli
