import FirmwareStamp.Version.Record

/-!
What a package manifest says about the version, and how a record is brought in line
with it before a build. Reconciling takes the manifest's triple when it is well formed
and differs, and counts one more build for a release target; a build counter at its
maximum refuses to count.
-/

namespace FirmwareStamp.Version

/-- The version found in a package manifest. -/
inductive Lookup where
  /-- No manifest was named, or nothing is at its path. -/
  | absent
  /-- The manifest exists but holds no usable version; `raw` is the text found, if any. -/
  | malformed (raw : Option String) (reason : String)
  /-- A well-formed version. -/
  | version (t : Triple)
deriving DecidableEq, Repr

namespace Lookup

def triple? : Lookup → Option Triple
  | .version t => some t
  | _ => none

def isPresent : Lookup → Bool
  | .absent => false
  | _ => true

/-- Whether a record was built against this manifest version: nothing to compare with
an absent manifest, and a malformed one never matches. -/
def agrees (l : Lookup) (r : Record) : Option Bool :=
  match l with
  | .absent => none
  | .malformed _ _ => some false
  | .version t => some (t == r.triple)

end Lookup

/-- How a reconciliation is reported. -/
inductive ReconcileState where
  | debugNoOp
  | manifestSync
  | buildIncrement
  | stable
deriving DecidableEq, Repr

/-- The reconciled record and what was done to it. -/
structure Reconciliation where
  record : Record
  synced : Bool
  incremented : Bool
  debug : Bool
deriving DecidableEq, Repr

namespace Reconciliation

/-- A reconciliation changed the record when it synced or counted. -/
def changed (r : Reconciliation) : Bool := r.synced || r.incremented

def state (r : Reconciliation) : ReconcileState :=
  if r.incremented then .buildIncrement
  else if r.synced then .manifestSync
  else if r.debug then .debugNoOp
  else .stable

end Reconciliation

/-- A release build was asked for while the build counter is at its maximum. -/
structure CounterExhausted where
  name : String
  build : UInt32
deriving DecidableEq, Repr

def maxWord : UInt32 := 4294967295

/-- Sync the triple to a well-formed manifest version that differs, then count one
more build unless the target is a debug target. -/
def reconcile (record : Record) (target : Target) (manifest : Lookup) :
    Except CounterExhausted Reconciliation :=
  let (synced, record) :=
    match manifest.triple? with
    | some t => if t ≠ record.triple then (true, record.withTriple t) else (false, record)
    | none => (false, record)
  if target.isDebug then
    .ok ⟨record, synced, false, true⟩
  else if record.build = maxWord then
    .error ⟨record.name, record.build⟩
  else
    .ok ⟨{ record with build := record.build + 1 }, synced, true, false⟩

end FirmwareStamp.Version
