import FirmwareStamp.Cli.Args
import FirmwareStamp.Cli.Spec
import FirmwareStamp.Text.Similarity

/-!
Reading a command line against its grammar. Words are read left to right: a command
name (unless an option still waits for its value) hands the rest to that command; `--`
makes every later word an operand; `--name` and `--name=value` are long options; `-abc`
is a cluster of one-letter options, where an option taking a value takes the rest of the
cluster; any other word is the value of a waiting option or an operand. A value is
checked when its option is complete: at the next option, or at the end. Each command
keeps what was given in the order first given; a flag or single value given twice, an
empty path, a choice not offered, an unknown word and two options that exclude each
other are errors, each with the program's wording, a suggestion when a known name is
alike, and a usage line. Options of the whole program given after a command name count
for the program too, the later ones winning.
-/

namespace FirmwareStamp.Cli

/-- The kinds of failure of reading a command line; help and version requests are
reported the same way. -/
inductive ErrorKind where
  | unknownArgument
  | invalidValue
  | argumentConflict
  | invalidSubcommand
  | tooManyValues
  | displayHelp
  | displayVersion
deriving DecidableEq, Repr

def ErrorKind.name : ErrorKind → String
  | .unknownArgument => "UnknownArgument"
  | .invalidValue => "InvalidValue"
  | .argumentConflict => "ArgumentConflict"
  | .invalidSubcommand => "InvalidSubcommand"
  | .tooManyValues => "TooManyValues"
  | .displayHelp => "DisplayHelp"
  | .displayVersion => "DisplayVersion"

/-- A failure of reading a command line, with the full text shown to the user. -/
structure CliError where
  kind : ErrorKind
  message : String
deriving DecidableEq, Repr

/-- What was given for one option. -/
inductive Given where
  | flag
  | count (n : UInt8)
  | values (vs : List String)
deriving DecidableEq, Repr

/-- The state of reading one command's words. -/
structure Level where
  /-- What was given, in the order first given. -/
  given : List (String × Given) := []
  /-- An option whose values are still being collected. -/
  pending : Option (Opt × List String) := none
  /-- The option the next plain word is a value of. -/
  awaiting : Option Opt := none
  /-- Whether `--` was seen. -/
  trailing : Bool := false
deriving Repr

namespace Level

def get? (lv : Level) (id : String) : Option Given := (lv.given.find? (·.1 == id)).map (·.2)

def has (lv : Level) (id : String) : Bool := lv.given.any (·.1 == id)

def remove (lv : Level) (id : String) : Level :=
  { lv with given := lv.given.filter (·.1 != id) }

def record (lv : Level) (id : String) (g : Given) : Level :=
  { lv with given := (lv.remove id).given ++ [(id, g)] }

/-- Records an option as given, keeping its place when it was given before. -/
def start (lv : Level) (id : String) : Level :=
  if lv.has id then lv else { lv with given := lv.given ++ [(id, .values [])] }

def addValues (lv : Level) (id : String) (vs : List String) : Level :=
  let lv := lv.start id
  { lv with given := lv.given.map fun e =>
      if e.1 == id then
        match e.2 with
        | .values old => (id, .values (old ++ vs))
        | g => (id, g)
      else e }

def ids (lv : Level) : List String := lv.given.map (·.1)

end Level

/-- The text of an error: the message, the tips, the usage line and, when the command
has a help flag (`hint`), the pointer to it. -/
def errorTextHinted (hint : Bool) (body : String) (tips : List String) (usage : Option String) :
    String :=
  "error: " ++ body ++
    (if tips.isEmpty then "" else "\n" ++ String.join (tips.map ("\n  tip: " ++ ·))) ++
    (match usage with
     | some u => "\n\n" ++ u
     | none => "") ++
    (if hint then "\n\nFor more information, try '--help'.\n" else "\n")

def errorText (body : String) (tips : List String) (usage : Option String) : String :=
  errorTextHinted true body tips usage

/-- The list of values an option accepts, as an error shows it. -/
def choiceList (vs : List String) : String :=
  if vs.isEmpty then "" else "\n  [possible values: " ++ ", ".intercalate vs ++ "]"

def plainUsage (s : Spec) : String := "Usage: " ++ s.usage

/-- The usage line naming the options given; with none given it is the plain one. -/
def usageWith (s : Spec) (ids : List String) : String :=
  let opts := (ids.eraseDups).filterMap fun id => s.options.find? (·.id == id)
  if opts.isEmpty then plainUsage s
  else "Usage: " ++ s.path ++ " " ++ " ".intercalate (opts.map Opt.display)

def emptyValue (o : Opt) : CliError :=
  ⟨.invalidValue, errorText ("a value is required for '" ++ o.display ++
    "' but none was supplied" ++ choiceList o.choices) [] none⟩

def invalidChoice (o : Opt) (v : String) : CliError :=
  let tips := match Text.mostSimilar v o.choices with
    | some c => ["a similar value exists: '" ++ c ++ "'"]
    | none => []
  if v.isEmpty then emptyValue o
  else ⟨.invalidValue, errorText ("invalid value '" ++ v ++ "' for '" ++ o.display ++ "'" ++
    choiceList o.choices) tips none⟩

def givenTwice (s : Spec) (o : Opt) : CliError :=
  ⟨.argumentConflict, errorText ("the argument '" ++ o.display ++ "' cannot be used multiple times")
    [] (some (plainUsage s))⟩

def unknownWord (word : String) (tips : List String) (usage : String) : CliError :=
  ⟨.unknownArgument, errorText ("unexpected argument '" ++ word ++ "' found") tips (some usage)⟩

/-- A word in the place of a command name that names no command, for a command with a
help flag or (`hint` false) without one. -/
def unknownCommandHinted (hint : Bool) (word : String) (tips : List String) (usage : String) :
    CliError :=
  ⟨.invalidSubcommand,
    errorTextHinted hint ("unrecognized subcommand '" ++ word ++ "'") tips (some usage)⟩

/-- A word in the place of a command name that names no command. -/
def unknownCommand (word : String) (tips : List String) (usage : String) : CliError :=
  unknownCommandHinted true word tips usage

def showHelp (s : Spec) : CliError := ⟨.displayHelp, s.helpPage⟩

def showVersion : CliError := ⟨.displayVersion, programName ++ " " ++ programVersion ++ "\n"⟩

def checkValue (o : Opt) (v : String) : Except CliError String :=
  match o.action with
  | .single _ .path => if v.isEmpty then .error (emptyValue o) else .ok v
  | .single _ (.choice vs) => if vs.contains v then .ok v else .error (invalidChoice o v)
  | _ => .ok v

/-- Applies a complete option with its values; the state is kept as far as it got when
this fails. -/
def apply (s : Spec) (o : Opt) (vals : List String) (lv : Level) : Level × Option CliError :=
  match o.action with
  | .flag =>
    if lv.has o.id then (lv.remove o.id, some (givenTwice s o)) else (lv.record o.id .flag, none)
  | .count =>
    let n := match lv.get? o.id with
      | some (.count n) => n
      | _ => 0
    (lv.record o.id (.count (if n == 255 then 255 else n + 1)), none)
  | .single _ _ =>
    match vals with
    | [] => (lv, some (emptyValue o))
    | v :: _ =>
      if lv.has o.id then (lv.remove o.id, some (givenTwice s o))
      else
        let lv := lv.start o.id
        match checkValue o v with
        | .ok v => (lv.addValues o.id [v], none)
        | .error e => (lv, some e)
  | .several _ =>
    if vals.isEmpty then (lv, some (emptyValue o)) else (lv.addValues o.id vals, none)
  | .help => (lv, some (showHelp s))
  | .version => (lv, some showVersion)

def resolvePending (s : Spec) (lv : Level) : Level × Option CliError :=
  match lv.pending with
  | none => (lv, none)
  | some (o, vals) => apply s o vals { lv with pending := none }

def react (s : Spec) (o : Opt) (vals : List String) (lv : Level) : Level × Option CliError :=
  match resolvePending s lv with
  | (lv, some e) => (lv, some e)
  | (lv, none) => apply s o vals lv

/-- The options given explicitly, as the usage line of an error names them. -/
def Level.used (lv : Level) : List String := lv.ids

def orFail (r : Level × Option CliError) : Except CliError Level :=
  match r with
  | (lv, none) => .ok { lv with awaiting := none }
  | (_, some e) => .error e

/-- Starts collecting values for an option given without one. -/
def await (s : Spec) (o : Opt) (lv : Level) : Except CliError Level :=
  match resolvePending s lv with
  | (_, some e) => .error e
  | (lv, none) => .ok { lv with pending := some (o, []), awaiting := some o }

/-- The long names of a command, each option's name before its aliases. -/
def Spec.longNames (s : Spec) : List String := s.options.flatMap fun o => o.long :: o.aliases

def Spec.findLong (s : Spec) (name : String) : Option Opt :=
  s.options.find? fun o => o.long == name || o.aliases.contains name

def Spec.findShort (s : Spec) (c : Char) : Option Opt :=
  s.options.find? fun o => o.short == some c

def Spec.hasCommand (s : Spec) (word : String) : Bool := s.subcommands.any (·.1 == word)

/-- The error for an unknown long option, with a suggestion of a long option of this
command, or of a command named later on the line that has a similar one. -/
def unknownLong (s : Spec) (name : String) (lv : Level) (rest : List String) : CliError :=
  let lv := (resolvePending s lv).1
  match Text.mostSimilar name s.longNames with
  | some best =>
    let lv := match s.findLong best with
      | some o => lv.start o.id
      | none => lv
    unknownWord ("--" ++ name) ["a similar argument exists: '--" ++ best ++ "'"]
      (usageWith s lv.used)
  | none =>
    let hits := s.subcommands.filterMap fun (sub, _, _) =>
      match commandSpec sub with
      | some cs =>
        match Text.mostSimilar name cs.longNames, rest.idxOf? sub with
        | some best, some pos => some (pos, sub, best)
        | _, _ => none
      | none => none
    let best := hits.foldl (fun acc h =>
      match acc with
      | some a => if h.1 < a.1 then some h else some a
      | none => some h) none
    let tips := match best with
      | some (_, sub, flag) => ["'" ++ sub ++ " --" ++ flag ++ "' exists"]
      | none => []
    unknownWord ("--" ++ name) tips (usageWith s lv.used)

/-- The error for a word that is neither an option nor a value. -/
def strayWord (s : Spec) (word : String) (lv : Level) : CliError :=
  if lv.trailing && s.hasCommand word then
    unknownWord word
      ["subcommand '" ++ word ++ "' exists; to use it, remove the '--' before it"] (plainUsage s)
  else if s.subcommands.isEmpty then unknownWord word [] (plainUsage s)
  else
    match Text.similar word (s.subcommands.map (·.1)) with
    | [] => unknownCommand word [] (plainUsage s)
    | [c] => unknownCommand word ["a similar subcommand exists: '" ++ c ++ "'"] (plainUsage s)
    | cs => unknownCommand word
        ["some similar subcommands exist: " ++ ", ".intercalate (cs.map fun c => "'" ++ c ++ "'")]
        (plainUsage s)

def longOption (s : Spec) (name : String) (value : Option String) (lv : Level)
    (rest : List String) : Except CliError Level :=
  match s.findLong name with
  | none => .error (unknownLong s name lv rest)
  | some o =>
    if o.takesValue then
      match value with
      | some v => orFail (react s o [v] lv)
      | none => await s o lv
    else
      match value with
      | some v =>
        .error ⟨.tooManyValues, errorText ("unexpected value '" ++ v ++ "' for '" ++ o.display ++
          "' found; no more were expected") [] (some (usageWith s (lv.used ++ [o.id])))⟩
      | none => orFail (react s o [] lv)

def shortCluster (s : Spec) : List Char → Level → Except CliError Level
  | [], lv => .ok { lv with awaiting := none }
  | c :: more, lv =>
    match s.findShort c with
    | none =>
      .error (unknownWord ("-" ++ c.toString) [] (plainUsage s))
    | some o =>
      if !o.takesValue then
        match react s o [] lv with
        | (lv, none) => shortCluster s more lv
        | (_, some e) => .error e
      else
        match more with
        | [] => await s o lv
        | '=' :: v => orFail (react s o [String.ofList v] lv)
        | v => orFail (react s o [String.ofList v] lv)

/-- Splits the body of a long option at its first `=`. -/
def splitLong (body : String) : String × Option String :=
  match body.toList.idxOf? '=' with
  | some i => (String.ofList (body.toList.take i), some (String.ofList (body.toList.drop (i + 1))))
  | none => (body, none)

/-- The help asked for by the help command: of the program, or of the command named. -/
def helpCommand : List String → CliError
  | [] => showHelp topSpec
  | name :: more =>
    match (if topSpec.hasCommand name then commandSpec name else none) with
    | none => unknownCommand name [] (plainUsage topSpec)
    | some cs =>
      match more with
      | [] => showHelp cs
      -- a command without a help flag does not point to one
      | w :: _ => unknownCommandHinted (cs.options.any (·.action == .help)) w [] (plainUsage cs)

/-- How reading one command's words ended: at the end, or at a command name with the
words after it. -/
inductive Stop where
  | done (lv : Level)
  | descend (lv : Level) (command : String) (rest : List String)

def scan (s : Spec) : List String → Level → Except CliError Stop
  | [], lv => .ok (.done lv)
  | w :: rest, lv =>
    if lv.trailing then .error (strayWord s w (resolvePending s lv).1)
    else if lv.awaiting.isNone && s.hasCommand w then
      if w == "help" then .error (helpCommand rest) else .ok (.descend lv w rest)
    else if w == "--" then scan s rest { lv with trailing := true }
    else if w.startsWith "--" then
      let (name, value) := splitLong (String.ofList (w.toList.drop 2))
      match longOption s name value lv rest with
      | .ok lv => scan s rest lv
      | .error e => .error e
    else if w.startsWith "-" && w.length > 1 then
      match shortCluster s (w.toList.drop 1) lv with
      | .ok lv => scan s rest lv
      | .error e => .error e
    else
      match lv.awaiting, lv.pending with
      | some o, some (p, vals) =>
        let single := match o.action with
          | .several _ => false
          | _ => true
        scan s rest { lv with pending := some (p, vals ++ [w]),
                              awaiting := if single then none else some o }
      | _, _ => .error (strayWord s w (resolvePending s lv).1)

/-- The options that exclude an option given, among those given. -/
def conflictsOf (s : Spec) (lv : Level) (id : String) : List String :=
  let mine := (s.options.find? (·.id == id)).map (·.conflicts) |>.getD []
  lv.ids.filter fun other =>
    other != id &&
      (mine.contains other ||
        ((s.options.find? (·.id == other)).map (·.conflicts) |>.getD []).contains id)

/-- Completes one command's reading: the waiting option, then the exclusions. -/
def finish (s : Spec) (lv : Level) : Except CliError Level := do
  let lv ← match resolvePending s lv with
    | (lv, none) => pure lv
    | (_, some e) => throw e
  match lv.ids.findSome? fun id =>
      match conflictsOf s lv id with
      | [] => none
      | cs => some (id, cs) with
  | none => pure lv
  | some (id, others) =>
    let name := fun i => ((s.options.find? (·.id == i)).map Opt.display).getD i
    let withText := match others.eraseDups with
      | [o] => " with '" ++ name o ++ "'"
      | os => " with:" ++ String.join (os.map fun o => "\n  " ++ name o)
    throw ⟨.argumentConflict, errorText ("the argument '" ++ name id ++ "' cannot be used" ++
      withText) [] (some (usageWith s (lv.ids.filter fun i => !others.contains i)))⟩

def textOf (lv : Level) (id : String) : Option String :=
  match lv.get? id with
  | some (.values (v :: _)) => some v
  | _ => none

def hookOptionsOf (lv : Level) : HookOptions :=
  { env := textOf lv "env", name := textOf lv "name", versionFile := textOf lv "version_file",
    header := textOf lv "header", packageManifest := textOf lv "package_manifest",
    buildDir := textOf lv "build_dir", firmware := textOf lv "firmware",
    mainObject := textOf lv "main_object", outputDir := textOf lv "output_dir" }

def joinRequestOf (lv : Level) : Join.Request :=
  { control := textOf lv "control_file", source := textOf lv "source_dir",
    target := textOf lv "target_file",
    masks := match lv.get? "masks" with
      | some (.values vs) => vs
      | _ => []
    sort := lv.has "sort" }

def commandOf (name : String) (lv : Level) : Option Command :=
  if name == "pre-build" then some (.preBuild (hookOptionsOf lv))
  else if name == "post-build" then some (.postBuild (hookOptionsOf lv))
  else if name == "show" then some (.show (hookOptionsOf lv))
  else if name == "join" then some (.join (joinRequestOf lv))
  else none

/-- The program's options, from the command's level where given there, else from the
program's level. -/
def argsOf (top : Level) (sub : Option Level) (command : Option Command) : Args :=
  let pick := fun id => match sub.bind (·.get? id) with
    | some g => some g
    | none => top.get? id
  let text := fun id => match pick id with
    | some (.values (v :: _)) => some v
    | _ => none
  let count := fun id => match pick id with
    | some (.count n) => n
    | _ => 0
  { configFile := text "config_file", projectDir := text "project_dir",
    logLevel := text "log_level", logFormat := text "log_format", logFile := text "log_file",
    color := (pick "color").isSome, noColor := (pick "no_color").isSome,
    verbose := count "verbose", quiet := count "quiet", command := command }

/-- Reads a command line (without the program's name). -/
def parseArgs (argv : List String) : Except CliError Args := do
  match ← scan topSpec argv {} with
  | .done lv =>
    let lv ← finish topSpec lv
    return argsOf lv none none
  | .descend lv name rest =>
    match commandSpec name with
    | none => throw (unknownCommand name [] (plainUsage topSpec))
    | some cs =>
      let sub ← match ← scan cs rest {} with
        | .done sub => finish cs sub
        | .descend sub _ _ => finish cs sub
      let lv ← finish topSpec lv
      return argsOf lv (some sub) (commandOf name sub)

end FirmwareStamp.Cli
