import FirmwareStamp.Regex.Grammar

/-!
Log specifications: which records a logger lets through. A specification is a list of
directives separated by commas, optionally followed by `/` and a pattern that the text of
a record must match. A directive is a level for every module, a module name, which lets
every record of that module through (also written `module=`), or `module=level`. The
levels are `off`, `error`, `warn`, `info`, `debug` and `trace`, in any case.

Blanks around a directive and around its level are ignored, and empty directives are
skipped, so the empty text is a specification. A module name holds no blank; a directive
with two `=`, a second `/` and a pattern that is no regular expression are refused.
-/

namespace FirmwareStamp.Log

/-- How much a logger lets through, from nothing to everything. -/
inductive Level where
  | off
  | error
  | warn
  | info
  | debug
  | trace
deriving DecidableEq, Repr

/-- The level a name stands for, in any case. -/
def Level.ofName? (s : String) : Option Level :=
  match String.ofList (s.toList.map Char.toLower) with
  | "off" => some .off
  | "error" => some .error
  | "warn" => some .warn
  | "info" => some .info
  | "debug" => some .debug
  | "trace" => some .trace
  | _ => none

/-- One directive: the level for a module, or for every module when none is named. -/
structure Directive where
  module : Option String
  level : Level
deriving DecidableEq, Repr

/-- A parsed specification: its directives in order, and the pattern records must match. -/
structure Spec where
  directives : List Directive
  pattern : Option String
deriving DecidableEq, Repr

def hasBlank (s : String) : Bool := s.toList.any Text.isBlank

/-- A directive from its trimmed text split at `=`: `none` when it is refused. -/
def Directive.ofParts? : List String → Option Directive
  | [name] =>
    if hasBlank name then none
    else
      match Level.ofName? name with
      | some level => some ⟨none, level⟩
      | none => some ⟨some name, .trace⟩
  | [name, level] =>
    if hasBlank name then none
    else if Text.trim level == "" then some ⟨some name, .trace⟩
    else (fun l => ⟨some name, l⟩) <$> Level.ofName? (Text.trim level)
  | _ => none

/-- The directives of the text before the `/`: `none` when one is refused. -/
def directives? (s : String) : Option (List Directive) :=
  ((s.splitOn ",").map Text.trim |>.filter (· != "")).mapM fun d =>
    Directive.ofParts? (d.splitOn "=")

/-- Parses a specification: `none` when it is refused. -/
def Spec.parse? (s : String) : Option Spec :=
  match s.splitOn "/" with
  | [mods] => (fun ds => ⟨ds, none⟩) <$> directives? mods
  | [mods, pattern] =>
    if Regex.wellFormed pattern then (fun ds => ⟨ds, some pattern⟩) <$> directives? mods
    else none
  | _ => none

end FirmwareStamp.Log
