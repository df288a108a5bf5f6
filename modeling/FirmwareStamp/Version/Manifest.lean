import FirmwareStamp.Version.Reconcile
import FirmwareStamp.Disk.Ops
import FirmwareStamp.Json.Value
import FirmwareStamp.Toml.Parse

/-!
Reading the version out of a package manifest. A manifest whose extension is `toml`, in
any case, is a TOML document whose version is `package.version`, or the top-level
`version` when the package table has none; any other manifest is a JSON document with a
top-level `version`. A manifest that cannot be read counts as absent; one that cannot be
parsed, has no version text, or has a text that is no triple is malformed.
-/

namespace FirmwareStamp.Version

/-- Whether a text equals `toml` up to ASCII case. -/
def isTomlExtension (ext : String) : Bool :=
  ext.toList.map Char.toLower == "toml".toList

def tomlVersion (contents : String) : Except String String :=
  match Toml.parse contents with
  | .error m => .error ("invalid TOML: " ++ m)
  | .ok table =>
    let fromPackage := (Toml.lookup table "package").bind fun p =>
      p.asTable?.bind fun t => Toml.lookup t "version"
    let found := match fromPackage with
      | some v => some v
      | none => Toml.lookup table "version"
    match found.bind Toml.Value.asStr? with
    | some s => .ok s
    | none => .error "no version string"

def jsonVersion (contents : String) : Except String String :=
  match Json.parseValue contents with
  | .error m => .error ("invalid JSON: " ++ m)
  | .ok v =>
    match (v.field? "version").bind Json.Value.text? with
    | some s => .ok s
    | none => .error "no \"version\" string"

/-- What a manifest text says, its kind chosen by the extension of its path. -/
def Lookup.ofText (path contents : String) : Lookup :=
  let raw :=
    if (Path.extension? path).any isTomlExtension then tomlVersion contents
    else jsonVersion contents
  match raw with
  | .error reason => .malformed none reason
  | .ok raw =>
    match Triple.parse? raw with
    | some t => .version t
    | none => .malformed (some raw) ("'" ++ raw ++ "' is not a major.minor.patch version")

/-- The version in the manifest at a path; no path, or a file that cannot be read, is
an absent manifest. -/
def readManifest (d : Disk) : Option String → Lookup
  | none => .absent
  | some path =>
    match d.readText path with
    | .error _ => .absent
    | .ok contents => Lookup.ofText path contents

end FirmwareStamp.Version
