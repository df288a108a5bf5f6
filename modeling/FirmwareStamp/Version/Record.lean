import FirmwareStamp.Version.Triple

/-!
The version record of a firmware project: its name, the release triple and a build
counter, together with the build targets it is stamped for. A target whose name ends
in `_debug` is a debug target; debug builds never count.
-/

namespace FirmwareStamp.Version

/-- The persistent version state of one project. -/
structure Record where
  name : String
  major : UInt32
  minor : UInt32
  patch : UInt32
  build : UInt32
deriving DecidableEq, Repr, Inhabited

namespace Record

/-- The record a project starts with: version 0.1.0, build 0. -/
def initial (name : String) : Record := ⟨name, 0, 1, 0, 0⟩

def triple (r : Record) : Triple := ⟨r.major, r.minor, r.patch⟩

/-- The record with its triple replaced; name and build counter stay. -/
def withTriple (r : Record) (t : Triple) : Record :=
  { r with major := t.major, minor := t.minor, patch := t.patch }

def versionString (r : Record) : String := r.triple.render

def shortString (r : Record) : String := wordText r.major ++ "." ++ wordText r.minor

def longString (r : Record) : String := r.versionString ++ "." ++ wordText r.build

@[simp] theorem triple_withTriple (r : Record) (t : Triple) : (r.withTriple t).triple = t := rfl

@[simp] theorem withTriple_name (r : Record) (t : Triple) : (r.withTriple t).name = r.name := rfl

@[simp] theorem withTriple_build (r : Record) (t : Triple) : (r.withTriple t).build = r.build := rfl

end Record

def debugSuffix : String := "_debug"

/-- A build environment the firmware is compiled for. -/
structure Target where
  name : String
deriving DecidableEq, Repr, Inhabited

/-- A debug target's name ends in `_debug`. -/
def Target.isDebug (t : Target) : Bool := t.name.endsWith debugSuffix

end FirmwareStamp.Version
