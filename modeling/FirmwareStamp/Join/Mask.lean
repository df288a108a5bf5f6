import FirmwareStamp.Disk.Ops
import FirmwareStamp.Glob.Pattern
import FirmwareStamp.Join.Error

/-!
Masks: which files a mask picks. A mask that names a file, from the working directory,
picks that file. Otherwise it is read as a path below the source directory (or below
the root when it has one) whose components are names, `..`, patterns, or `**`. A name
steps into an entry that exists; a pattern steps into every entry of the directory
whose name it matches, links included; `**` stands for any number of directory levels,
entered only through real directories. What is reached at the end counts when it is a
file. Matches come in listing order, or sorted by their components.
-/

namespace FirmwareStamp.Join

/-- One component of a mask. -/
inductive Segment where
  | literal (name : String)
  | pattern (p : Glob.Pattern)
  | recursive
deriving DecidableEq, Repr

def segmentOf (mask : String) : Path.Component → Except JoinError (Option Segment)
  | .root | .current => .ok none
  | .up => .ok (some (.literal ".."))
  | .name n =>
    if n == "**" then .ok (some .recursive)
    else if Glob.hasWildcard n then
      match Glob.Pattern.parse n with
      | .ok p => .ok (some (.pattern p))
      | .error e => .error (.invalidPattern mask e.message)
    else .ok (some (.literal n))

/-- The directory a mask starts from and its segments. -/
def compileMask (sourceDir mask : String) : Except JoinError (String × List Segment) := do
  let base := if Path.hasRoot mask then "/" else sourceDir
  let segments ← (Path.components mask).mapM (segmentOf mask)
  return (base, segments.filterMap id)

/-- The entries of a directory; what is not a directory has none. -/
def listDir (d : Disk) (dir : String) : List (String × Node) :=
  match d.readDir dir with
  | .ok entries => entries
  | .error _ => []

def deepest (d : Disk) : Nat := (d.entries.map (·.1.length)).foldl max 0

/-- How many levels below the directory a text leads to entries can still stand: the
measure a walk descends along. A text that leads to no directory has none. -/
def room (d : Disk) (dir : String) : Nat :=
  match d.locate true dir with
  | .ok (.found p .dir _) => deepest d + 1 - p.length
  | _ => 0

/-- The files that segments reach from a directory, in listing order. A name takes one
segment and a pattern one per entry it matches; `**` takes its segment, then enters each
real directory of the listing with the same segments. A directory it enters lies deeper
than the one listed, which bounds the walk even through links. -/
def walk (d : Disk) : String → List Segment → List String
  | dir, [] => if d.isFile dir then [dir] else []
  | dir, .literal n :: rest =>
    let next := Path.join dir n
    if d.present next then walk d next rest else []
  | dir, .pattern p :: rest =>
    (listDir d dir).flatMap fun e =>
      if p.matchName e.1 then walk d (Path.join dir e.1) rest else []
  | dir, .recursive :: rest =>
    walk d dir rest ++ (listDir d dir).flatMap fun e =>
      if _deeper : e.2 = .dir ∧ room d (Path.join dir e.1) < room d dir then
        walk d (Path.join dir e.1) (.recursive :: rest)
      else []
termination_by dir segments => (segments.length, room d dir)
decreasing_by
  · exact Prod.Lex.left _ _ (by simp)
  · exact Prod.Lex.left _ _ (by simp)
  · exact Prod.Lex.left _ _ (by simp)
  · exact Prod.Lex.right _ _deeper.2

/-- The files a mask picks. -/
def resolveMask (d : Disk) (sourceDir mask : String) (sort : Bool) :
    Except JoinError (List String) := do
  if d.isFile mask then return [mask]
  let (base, segments) ← compileMask sourceDir mask
  let found := walk d base segments
  return if sort then found.mergeSort (fun a b => Path.le a b) else found

end FirmwareStamp.Join
