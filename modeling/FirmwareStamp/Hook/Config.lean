import FirmwareStamp.Cli.Config
import FirmwareStamp.Version.Reconciler
import FirmwareStamp.Version.Publish
import FirmwareStamp.Text.Blank

/-!
The files a build hook works on, resolved from the hook options and the project
directory. A path given as an option is taken below the project directory; one not
given has its place in the usual project layout, where the build directory of an
environment holds the firmware image and the compiled main object. The project name
defaults to the name of the project directory after links are followed.
-/

namespace FirmwareStamp.Hook

open FirmwareStamp.Version

def defaultVersionFile : String := "data/prog_ver.json"

def defaultHeaderFile : String := "include/ProgVersion.h"

def defaultPackageManifest : String := "package.json"

/-- Where the build directories of the environments lie in a project. -/
def defaultBuildRoot : String := ".pio/build"

def defaultOutputDir : String := "bin"

def firmwareFile : String := "firmware.bin"

def mainObjectFile : String := "src/main.cpp.o"

/-- The files and names a build hook works with. -/
structure HookConfig where
  projectDir : String
  projectName : String
  target : Target
  versionFile : String
  headerFile : String
  packageManifest : String
  buildDir : String
  firmware : String
  mainObject : String
  outputDir : String
deriving DecidableEq, Repr

/-- The name of a project directory: the last component of where it leads, or of the
text itself when it leads nowhere; `firmware` when there is none. -/
def projectNameOf (d : Disk) (projectDir : String) : String :=
  let name := match d.canonicalize projectDir with
    | .ok p => p.getLast?
    | .error _ => Path.fileName? projectDir
  name.getD "firmware"

/-- Resolves the hook options against a project directory; an environment name is
required and may not be blank. -/
def HookConfig.ofOptions (d : Disk) (projectDir : String) (h : Cli.HookOptions) :
    Except Cli.ConfigError HookConfig :=
  match h.env.filter (fun e => !Text.allBlank e) with
  | none => .error .missingEnvironment
  | some env =>
    let resolve := fun (given : Option String) (fallback : String) =>
      match given with
      | some p => Path.join projectDir p
      | none => fallback
    let buildDir := resolve h.buildDir (Path.join (Path.join projectDir defaultBuildRoot) env)
    .ok { projectDir
          projectName := h.name.getD (projectNameOf d projectDir)
          target := ⟨env⟩
          versionFile := resolve h.versionFile (Path.join projectDir defaultVersionFile)
          headerFile := resolve h.header (Path.join projectDir defaultHeaderFile)
          packageManifest := resolve h.packageManifest (Path.join projectDir defaultPackageManifest)
          buildDir
          firmware := resolve h.firmware (Path.join buildDir firmwareFile)
          mainObject := resolve h.mainObject (Path.join buildDir mainObjectFile)
          outputDir := resolve h.outputDir (Path.join projectDir defaultOutputDir) }

namespace HookConfig

def store (c : HookConfig) : Store := ⟨c.versionFile, c.projectName⟩

def reconciler (c : HookConfig) : Reconciler :=
  ⟨c.store, c.headerFile, some c.packageManifest, c.mainObject⟩

def publisher (c : HookConfig) : Publisher := ⟨c.store, c.firmware, c.outputDir⟩

/-- The hook before the main source is compiled: the version step. -/
def beforeMainCompile (c : HookConfig) : Action VersionError Outcome :=
  c.reconciler.run c.target

/-- The hook after the build product is made: publishing it. -/
def afterBuildProduct (c : HookConfig) : Action PublishError String :=
  c.publisher.publish c.target

end HookConfig

end FirmwareStamp.Hook
