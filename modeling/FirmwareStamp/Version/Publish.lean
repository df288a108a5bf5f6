import FirmwareStamp.Version.Store

/-!
Publishing a build product under a name that carries its version. A release target's
product is named with the long version of the record in the version file; a debug
target's, or one without a record, is named without it. Publishing checks that the
product is a file, works out the destination, makes the output directory and copies.
-/

namespace FirmwareStamp.Version

def artifactFileName (target : Target) (version : Option Record) : String :=
  match version with
  | some r =>
    if target.isDebug then target.name ++ " (firmware).bin"
    else target.name ++ " (firmware " ++ r.longString ++ ").bin"
  | none => target.name ++ " (firmware).bin"

/-- Where a build product is published from and to. -/
structure Publisher where
  store : Store
  product : String
  outputDir : String
deriving DecidableEq, Repr

namespace Publisher

/-- The path a target's product is published to; a release target needs the version
file. -/
def destination (p : Publisher) (target : Target) : Action PublishError String := do
  let version ←
    if target.isDebug then pure none
    else some <$> Action.mapError PublishError.version p.store.loadExisting
  return Path.join p.outputDir (artifactFileName target version)

/-- Copies the build product to its destination and returns that path. -/
def publish (p : Publisher) (target : Target) : Action PublishError String := do
  if !(← get).isFile p.product then throw (.productMissing p.product)
  let dst ← p.destination target
  Action.attemptPartly (·.createDirAll p.outputDir) (.copyFailed p.product p.outputDir)
  Action.attempt (·.copy p.product dst) (.copyFailed p.product dst)
  return dst

end Publisher

end FirmwareStamp.Version
