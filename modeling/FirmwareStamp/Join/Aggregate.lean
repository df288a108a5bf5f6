import FirmwareStamp.Disk.Action
import FirmwareStamp.Join.Mask
import FirmwareStamp.Join.Control

/-!
Joining files into one target. The target is created (or emptied) first; then each
mask is resolved in turn and the files it picks are appended, except a file that is
the target itself. When a mask or a file fails, what was appended before stays in the
target.
-/

namespace FirmwareStamp.Join

/-- The contents of the files picked, in order, and the first failure. The target's
physical place `target` is skipped. -/
def readPicked (d : Disk) (target : Option (List String)) :
    List String → List String × List UInt8 × Option JoinError
  | [] => ([], [], none)
  | p :: rest =>
    if target.isSome && (d.canonicalize p).toOption == target then readPicked d target rest
    else
      match d.readBytes p with
      | .error e => ([], [], some (.sourceUnreadable p e))
      | .ok bytes =>
        let (names, data, err) := readPicked d target rest
        (p :: names, bytes ++ data, err)

/-- The files joined for masks in order, their contents, and the first failure. -/
def collect (d : Disk) (sourceDir : String) (sort : Bool) (target : Option (List String)) :
    List String → List String × List UInt8 × Option JoinError
  | [] => ([], [], none)
  | mask :: rest =>
    match resolveMask d sourceDir mask sort with
    | .error e => ([], [], some e)
    | .ok paths =>
      match readPicked d target paths with
      | (names, data, some e) => (names, data, some e)
      | (names, data, none) =>
        let (names', data', err) := collect d sourceDir sort target rest
        (names ++ names', data ++ data', err)

/-- Joins the files a plan picks below a source directory into its target; returns the
files joined. -/
def aggregate (sourceDir : String) (plan : Plan) : Action JoinError (List String) := do
  let d ← get
  let place ← match d.writePlace plan.targetFile with
    | .ok q => pure q
    | .error e => throw (.targetUnwritable plan.targetFile e)
  let d := d.put place (.file [])
  set d
  let identity := (d.canonicalize plan.targetFile).toOption
  let (names, data, err) := collect d sourceDir plan.sort identity plan.masks
  set (d.put place (.file data))
  match err with
  | some e => throw e
  | none => return names

/-- A join asked for on the command line. -/
structure Request where
  control : Option String := none
  source : Option String := none
  target : Option String := none
  masks : List String := []
  sort : Bool := false
deriving DecidableEq, Repr

/-- Runs a join: reads the control file if one is named, resolves the plan, and joins
below the source directory (the working directory by default). -/
def Request.run (r : Request) : Action JoinError (List String) := do
  let control ← match r.control with
    | some p =>
      match Control.load (← get) p with
      | .ok c => pure (some c)
      | .error e => throw e
    | none => pure none
  let plan := Plan.resolve control r.masks r.target r.sort
  aggregate (r.source.getD ".") plan

end FirmwareStamp.Join
