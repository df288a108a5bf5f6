import FirmwareStamp.Version.Store
import FirmwareStamp.Version.Manifest

/-!
The version step before a build. It loads the record (creating the version file if
needed), writes the header file if there is none, reconciles the record with the
package manifest, saves the record and rewrites the header when that changed anything,
and removes the compiled main object when the manifest disagrees with the record, so
that the new version is compiled in.
-/

namespace FirmwareStamp.Version

/-- The files the version step works on. -/
structure Reconciler where
  store : Store
  header : String
  manifest : Option String
  mainObject : String
deriving DecidableEq, Repr

/-- What the version step did. -/
structure Outcome where
  reconciliation : Reconciliation
  headerBootstrapped : Bool
  persisted : Bool
  recompileForced : Bool
deriving DecidableEq, Repr

namespace Reconciler

/-- Saves a changed record and rewrites the header from it; an unchanged record is left
alone. -/
def persist (c : Reconciler) (result : Reconciliation) : Action VersionError Unit :=
  if result.changed then do
    c.store.save result.record
    project c.header result.record
  else pure ()

/-- Removes the main object when the manifest disagrees with the record; tells whether
one was removed. -/
def recompileIfStale (c : Reconciler) (manifest : Lookup) (r : Record) :
    Action VersionError Bool :=
  match manifest.agrees r with
  | some false => forceRecompile c.mainObject
  | _ => pure false

def run (c : Reconciler) (target : Target) : Action VersionError Outcome := do
  let record ← c.store.load
  let booted ← bootstrap c.header record
  let manifest := readManifest (← get) c.manifest
  let result ← match reconcile record target manifest with
    | .ok r => pure r
    | .error e => throw (.exhausted e)
  c.persist result
  let forced ← c.recompileIfStale manifest result.record
  return ⟨result, booted, result.changed, forced⟩

end Reconciler

end FirmwareStamp.Version
