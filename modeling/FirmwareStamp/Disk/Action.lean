import FirmwareStamp.Disk.Ops

/-!
Steps on a disk that may fail. A step reads and changes the disk and ends with a value
or an error; what it changed before an error stays changed, as on a real disk, where a
failing operation does not undo the ones before it.
-/

namespace FirmwareStamp

/-- A step on a disk that ends with a value or an error of type `ε`. -/
abbrev Action (ε α : Type) := ExceptT ε (StateM Disk) α

namespace Action

/-- Runs a step on a disk: its outcome and the disk after it. -/
def run {ε α : Type} (a : Action ε α) (d : Disk) : Except ε α × Disk :=
  (ExceptT.run a).run d

def query {ε α : Type} (f : Disk → α) : Action ε α := do
  return f (← get)

/-- An operation that changes the disk or fails; `wrap` says what a failure means. -/
def attempt {ε : Type} (f : Disk → Except IoError Disk) (wrap : IoError → ε) :
    Action ε Unit := do
  match f (← get) with
  | .ok d => set d
  | .error e => throw (wrap e)

/-- An operation that may fail after changing the disk: its changes stay, and `wrap` says
what a failure means. -/
def attemptPartly {ε : Type} (f : Disk → Disk × Option IoError) (wrap : IoError → ε) :
    Action ε Unit := do
  let (d, failure) := f (← get)
  set d
  match failure with
  | some e => throw (wrap e)
  | none => pure ()

def mapError {ε ε' α : Type} (f : ε → ε') (a : Action ε α) : Action ε' α :=
  ExceptT.mk do
    match ← ExceptT.run a with
    | .ok v => pure (.ok v)
    | .error e => pure (.error (f e))

/-- A step that cannot fail used where failures of any kind may occur. -/
def lift {ε α : Type} (a : Action Empty α) : Action ε α :=
  mapError (fun e => nomatch e) a

end Action

end FirmwareStamp
