import FirmwareStamp.Proofs.Cli.JoinPlan

/-!
The files a build hook works on, from the command line to the resolved configuration. Three
layers give each hook option: the command line, the `hooks` table of the configuration file
in effect, and the default; the project directory takes the configuration's `project-dir`
where the command line names none, although the project's configuration file was looked for
in the directory the command line names. The options are then resolved in the project
directory: a missing or blank environment stops the hook with status 1, and otherwise every
path lies below the project directory or has its place in the usual layout, two of them in
the build directory (`HookConfig.Resolves`).
-/

namespace FirmwareStamp.Hook

/-- `c` is what the hook options `h` resolve to in the project directory `P`: the target is
the environment given, every path given as an option is joined to `P`, every other has its
place in the usual layout, the firmware image and the main object in the build directory. -/
structure HookConfig.Resolves (d : Disk) (P : String) (h : Cli.HookOptions) (c : HookConfig) :
    Prop where
  target : h.env = some c.target.name
  projectDir : c.projectDir = P
  projectName : c.projectName = h.name.getD (projectNameOf d P)
  versionFile : c.versionFile = Path.join P (h.versionFile.getD defaultVersionFile)
  headerFile : c.headerFile = Path.join P (h.header.getD defaultHeaderFile)
  packageManifest :
    c.packageManifest = Path.join P (h.packageManifest.getD defaultPackageManifest)
  buildDir : c.buildDir =
    (h.buildDir.map (Path.join P)).getD (Path.join (Path.join P defaultBuildRoot) c.target.name)
  firmware : c.firmware = (h.firmware.map (Path.join P)).getD (Path.join c.buildDir firmwareFile)
  mainObject :
    c.mainObject = (h.mainObject.map (Path.join P)).getD (Path.join c.buildDir mainObjectFile)
  outputDir : c.outputDir = Path.join P (h.outputDir.getD defaultOutputDir)

/-- A text is blank when every character of it is a Unicode blank. -/
theorem allBlank_iff {e : String} :
    Text.allBlank e = true ↔ ∀ ch ∈ e.toList, Text.isBlank ch = true := by
  simp [Text.allBlank]

/-- Resolving the hook options fails, for want of an environment, exactly when none is given
or the one given is blank; otherwise every option resolves as `Resolves` says. -/
theorem ofOptions_cases (d : Disk) (P : String) (h : Cli.HookOptions) :
    ((∀ e ∈ h.env, Text.allBlank e = true) ∧
      HookConfig.ofOptions d P h = .error .missingEnvironment) ∨
    ((∃ e ∈ h.env, Text.allBlank e = false) ∧
      ∃ c, HookConfig.ofOptions d P h = .ok c ∧ c.Resolves d P h) := by
  obtain ⟨env, name, versionFile, header, packageManifest, buildDir, firmware, mainObject,
    outputDir⟩ := h
  cases env with
  | none => exact .inl ⟨by simp, rfl⟩
  | some e =>
    cases hb : Text.allBlank e
    · have hf : (some e).filter (fun e => !Text.allBlank e) = some e := by simp [hb]
      refine .inr ⟨⟨e, rfl, hb⟩, _, by rw [HookConfig.ofOptions, hf], ?_⟩
      constructor <;> first | rfl | (dsimp only; split <;> rfl)
    · have hf : (some e).filter (fun e => !Text.allBlank e) = none := by simp [hb]
      exact .inl ⟨by simpa using hb, by rw [HookConfig.ofOptions, hf]⟩

/- A path given with a root is taken as it is, not below the project directory. -/
example : ((HookConfig.ofOptions Version.blankDisk "proj"
    { env := some "esp", versionFile := some "/etc/v.json" }).toOption.map
      (·.versionFile)) = some "/etc/v.json" := by
  decide

end FirmwareStamp.Hook

namespace FirmwareStamp.Cli

open FirmwareStamp.Action Hook

/-- The table a configuration gives under a key, empty when it gives none. -/
def sectionAt (t : Table) (key : String) : Table :=
  match tableAt t key with
  | .ok (some s) => s
  | _ => []

/-- `h'` is `h` with the options it left out taken from the hooks table `s`. -/
structure HooksFilled (h : HookOptions) (s : Table) (h' : HookOptions) : Prop where
  env : h'.env = h.env.or (textAt s "env")
  name : h'.name = h.name.or (textAt s "name")
  versionFile : h'.versionFile = h.versionFile.or (textAt s "version-file")
  header : h'.header = h.header.or (textAt s "header")
  packageManifest : h'.packageManifest = h.packageManifest.or (textAt s "package-manifest")
  buildDir : h'.buildDir = h.buildDir.or (textAt s "build-dir")
  firmware : h'.firmware = h.firmware.or (textAt s "firmware")
  mainObject : h'.mainObject = h.mainObject.or (textAt s "main-object")
  outputDir : h'.outputDir = h.outputDir.or (textAt s "output-dir")

theorem HooksFilled.nil (h : HookOptions) : HooksFilled h [] h := by
  constructor <;> simp [textAt, Toml.lookup]

theorem fill_ok {h h' : HookOptions} {s : Table} (hf : h.fill s = .ok h') : HooksFilled h s h' := by
  unfold HookOptions.fill at hf
  obtain ⟨_, henv, hf⟩ := exists_of_bind_eq_ok hf
  obtain ⟨_, hname, hf⟩ := exists_of_bind_eq_ok hf
  obtain ⟨_, hversion, hf⟩ := exists_of_bind_eq_ok hf
  obtain ⟨_, hheader, hf⟩ := exists_of_bind_eq_ok hf
  obtain ⟨_, hmanifest, hf⟩ := exists_of_bind_eq_ok hf
  obtain ⟨_, hbuild, hf⟩ := exists_of_bind_eq_ok hf
  obtain ⟨_, hfirmware, hf⟩ := exists_of_bind_eq_ok hf
  obtain ⟨_, hobject, hf⟩ := exists_of_bind_eq_ok hf
  obtain ⟨_, houtput, hf⟩ := exists_of_bind_eq_ok hf
  cases hf
  exact ⟨fillWith_ok henv, fillWith_ok hname, fillWith_ok hversion, fillWith_ok hheader,
    fillWith_ok hmanifest, fillWith_ok hbuild, fillWith_ok hfirmware, fillWith_ok hobject,
    fillWith_ok houtput⟩

/-- A build hook's command is filled from the hooks table, or left as it is without one. -/
theorem fillCommand_hooks {k : HookOptions → Command} {h : HookOptions} {t : Table} {c : Command}
    (hk : k = .preBuild ∨ k = .postBuild ∨ k = .show) (hf : fillCommand (k h) t = .ok c) :
    ∃ h', c = k h' ∧ HooksFilled h (sectionAt t "hooks") h' := by
  have hhooks : ∀ h', fillCommand.fillHooks t h = .ok h' →
      HooksFilled h (sectionAt t "hooks") h' := by
    intro h' hf
    unfold fillCommand.fillHooks at hf
    obtain ⟨o, ho, hf⟩ := exists_of_bind_eq_ok hf
    cases o with
    | none =>
      obtain rfl : h = h' := Except.ok.inj hf
      have hs : sectionAt t "hooks" = [] := by simp [sectionAt, ho]
      exact hs ▸ HooksFilled.nil h
    | some s =>
      have hs : sectionAt t "hooks" = s := by simp [sectionAt, ho]
      exact hs ▸ fill_ok hf
  rcases hk with rfl | rfl | rfl <;>
  · unfold fillCommand at hf
    obtain ⟨h', hh', hf⟩ := exists_of_bind_eq_ok hf
    exact ⟨h', (Except.ok.inj hf).symm, hhooks h' hh'⟩

/-- With no configuration file named, the project's configuration file is looked for in the
project directory of the command line, and is the one in effect exactly when it is a regular
file. -/
theorem discoverConfig_project {a : Args} {d : Disk} {u : Option String}
    (hc : a.configFile = none) :
    a.discoverConfig d u = .ok (some (Path.join (a.projectDir.getD ".") configFileName)) ↔
      d.isFile (Path.join (a.projectDir.getD ".") configFileName) = true := by
  unfold Args.discoverConfig
  rw [hc]
  dsimp only [Args.projectDirOrCurrent]
  by_cases hf : d.isFile (Path.join (a.projectDir.getD ".") configFileName) = true
  · simp [hf]
  · rw [if_neg hf]
    cases u with
    | none => simp [hf]
    | some dir =>
      refine iff_of_false (fun hpick => ?_) hf
      simp only [Except.ok.injEq] at hpick
      split at hpick
      · rename_i huser
        rw [Option.some.inj hpick] at huser
        exact hf huser
      · cases hpick

/-- A command line whose command is a build hook prepares the log file, then resolves the hook
options it was left with in the project directory it was left with; a failure there ends the
run with status 1. -/
theorem run_hook {env : Environment} {args a' : Args} {k : HookOptions → Command}
    {h : HookOptions} {d : Disk} {p : Option String}
    (hk : k = .preBuild ∨ k = .postBuild ∨ k = .show)
    (hload : args.loadConfig d env.userConfigDir = .ok (a', p)) (hcmd : a'.command = some (k h)) :
    ∃ next : HookConfig → StateM Disk Outcome, (Cli.run env args).run d =
      (match HookConfig.ofOptions ((prepareLogFile a').run d).2 a'.projectDirOrCurrent h with
        | .error _ => pure (⟨1, ""⟩ : Outcome)
        | .ok c => next c).run ((prepareLogFile a').run d).2 := by
  rcases hk with rfl | rfl | rfl <;>
    exact ⟨_, by simp [Cli.run, hload, hcmd]; rfl⟩

/-- A build hook run from the command line, with any configuration file that discovery picks
and that applies. The project's configuration file was looked for in the project directory
of the command line; the project directory in effect is the command line's, else the
configuration's, else the working directory. The hook options are the command line's, each
completed from the configuration's hooks table, and the run resolves them in that project
directory after the log file is prepared, ending with status 1 where that fails. It fails
exactly when the environment is missing or made of blank characters only; otherwise every
file is resolved in the project directory as `HookConfig.Resolves` says. -/
theorem hook_config_layers {env : Environment} {args args' : Args} {k : HookOptions → Command}
    {h : HookOptions} {d : Disk} {t : Table} (hk : k = .preBuild ∨ k = .postBuild ∨ k = .show)
    (hcmd : args.command = some (k h)) (hconf : ConfigTable args d env.userConfigDir t)
    (happly : args.applyConfig t = .ok args') :
    (args.configFile = none →
      (args.discoverConfig d env.userConfigDir =
          .ok (some (Path.join (args.projectDir.getD ".") configFileName)) ↔
        d.isFile (Path.join (args.projectDir.getD ".") configFileName) = true)) ∧
    args'.projectDirOrCurrent = (args.projectDir.or (textAt t "project-dir")).getD "." ∧
    ∃ h', args'.command = some (k h') ∧ HooksFilled h (sectionAt t "hooks") h' ∧
      (∃ next : HookConfig → StateM Disk Outcome, (Cli.run env args).run d =
        (match HookConfig.ofOptions ((prepareLogFile args').run d).2 args'.projectDirOrCurrent h'
          with
          | .error _ => pure (⟨1, ""⟩ : Outcome)
          | .ok c => next c).run ((prepareLogFile args').run d).2) ∧
      ∀ d0, (HookConfig.ofOptions d0 args'.projectDirOrCurrent h' = .error .missingEnvironment ↔
          ∀ e ∈ h'.env, ∀ ch ∈ e.toList, Text.isBlank ch = true) ∧
        ((∃ e ∈ h'.env, ∃ ch ∈ e.toList, Text.isBlank ch = false) →
          ∃ c, HookConfig.ofOptions d0 args'.projectDirOrCurrent h' = .ok c ∧
            c.Resolves d0 args'.projectDirOrCurrent h') := by
  obtain ⟨hproject, hcommand⟩ := applyConfig_ok happly
  obtain ⟨c', hcmd', hfill⟩ := hcommand _ hcmd
  obtain ⟨h', rfl, hfilled⟩ := fillCommand_hooks hk hfill
  obtain ⟨p, hload⟩ := loadConfig_of_table hconf happly
  refine ⟨fun hc => discoverConfig_project hc, by rw [Args.projectDirOrCurrent, hproject],
    h', hcmd', hfilled, run_hook hk hload hcmd', fun d0 => ?_⟩
  rcases ofOptions_cases d0 args'.projectDirOrCurrent h' with
    ⟨hall, hmissing⟩ | ⟨⟨e, he, hb⟩, hok⟩
  · refine ⟨iff_of_true hmissing fun e he => allBlank_iff.1 (hall e he), ?_⟩
    rintro ⟨e, he, ch, hch, hnot⟩
    rw [allBlank_iff.1 (hall e he) ch hch] at hnot
    cases hnot
  · obtain ⟨c, hc, hres⟩ := hok
    refine ⟨iff_of_false (by simp [hc]) fun hall => ?_, fun _ => ⟨c, hc, hres⟩⟩
    rw [allBlank_iff.2 (hall e he)] at hb
    cases hb

/-- A configuration that moves the project directory and gives the environment, the name
and four of the files. -/
def hookConfigText : String :=
  "project-dir = \"proj\"\n\n[hooks]\nenv = \"cfg\"\nname = \"fw\"\nversion-file = \"cfg.json\"\nheader = \"inc/v.h\"\nbuild-dir = \"out/build\"\noutput-dir = \"cfg-bin\"\n"

/-- The table that configuration reads as. -/
def hookTable : Table := (Toml.parse hookConfigText).toOption.getD []

def hookDisk : Disk := ⟨[(["buildstamp.toml"], .file hookConfigText.toUTF8.toList)], []⟩

/-- The environment, the version file and the output directory on the command line. -/
def cliHooks : HookOptions :=
  { env := some "esp", versionFile := some "cli.json", outputDir := some "dist" }

def layeredHook : Args := { command := some (.preBuild cliHooks) }

def filledHooks : HookOptions :=
  { env := some "esp", name := some "fw", versionFile := some "cli.json", header := some "inc/v.h",
    buildDir := some "out/build", outputDir := some "dist" }

def layeredHookFilled : Args :=
  { projectDir := some "proj", command := some (.preBuild filledHooks) }

/-- The resolved configuration: the command line's values over the configuration's, the
manifest, the firmware and the main object by default, all in the configuration's project
directory. -/
def layeredHookConfig : HookConfig :=
  ⟨"proj", "fw", ⟨"esp"⟩, "proj/cli.json", "proj/inc/v.h", "proj/package.json", "proj/out/build",
    "proj/out/build/firmware.bin", "proj/out/build/src/main.cpp.o", "proj/dist"⟩

theorem hookDisk_config : hookDisk.locate true "./buildstamp.toml" =
    .ok (.found ["buildstamp.toml"] (.file hookConfigText.toUTF8.toList) false) := by
  simp +decide [Disk.locate, Disk.locateWith, hookDisk, Disk.walk, Disk.node?, pieces_config,
    Disk.wantsDir]

theorem layeredHook_config : ConfigTable layeredHook hookDisk none hookTable := by
  have hpath : Path.join "." configFileName = "./buildstamp.toml" := by decide
  have hfile : hookDisk.isFile "./buildstamp.toml" = true := Disk.isFile_of_locate hookDisk_config
  refine .file ?_ (Version.readText_found hookDisk_config) (parse_eq_read (by decide +kernel))
  simp [Args.discoverConfig, layeredHook, Args.projectDirOrCurrent, hpath, hfile]

theorem layeredHook_apply : layeredHook.applyConfig hookTable = .ok layeredHookFilled := by
  decide +kernel

theorem filledHooks_resolve :
    HookConfig.ofOptions hookDisk "proj" filledHooks = .ok layeredHookConfig := by
  decide +kernel

/-- The command line's environment, version file and output directory win over the
configuration's; the name, the header and the build directory come from the configuration,
the other files by default; the configuration was found in the working directory and moves
the project directory, where every file resolves. -/
theorem command_line_over_configuration :
    (Command.preBuild = .preBuild ∨ Command.preBuild = .postBuild ∨ Command.preBuild = .show) ∧
    layeredHook.command = some (.preBuild cliHooks) ∧
    ConfigTable layeredHook hookDisk none hookTable ∧
    layeredHook.applyConfig hookTable = .ok layeredHookFilled ∧
    (layeredHook.configFile = none →
      (layeredHook.discoverConfig hookDisk none =
          .ok (some (Path.join (layeredHook.projectDir.getD ".") configFileName)) ↔
        hookDisk.isFile (Path.join (layeredHook.projectDir.getD ".") configFileName) = true)) ∧
    layeredHookFilled.projectDirOrCurrent = "proj" ∧
    ∃ h', layeredHookFilled.command = some (.preBuild h') ∧
      HooksFilled cliHooks (sectionAt hookTable "hooks") h' ∧
      (∃ next : HookConfig → StateM Disk Outcome,
        (Cli.run ⟨none, ⟨"0", "now"⟩⟩ layeredHook).run hookDisk =
          (match HookConfig.ofOptions ((prepareLogFile layeredHookFilled).run hookDisk).2
              layeredHookFilled.projectDirOrCurrent h' with
            | .error _ => pure (⟨1, ""⟩ : Outcome)
            | .ok c => next c).run ((prepareLogFile layeredHookFilled).run hookDisk).2) ∧
      HookConfig.ofOptions hookDisk "proj" h' = .ok layeredHookConfig ∧
      layeredHookConfig.Resolves hookDisk "proj" h' := by
  have hk : (Command.preBuild = .preBuild ∨ Command.preBuild = .postBuild ∨
      Command.preBuild = .show) := .inl rfl
  have hcmd : layeredHook.command = some (.preBuild cliHooks) := rfl
  have hconf : ConfigTable layeredHook hookDisk
      (Environment.userConfigDir ⟨none, ⟨"0", "now"⟩⟩) hookTable := layeredHook_config
  obtain ⟨hdisc, -, h', hcmd', hfilled, hrun, hres⟩ :=
    hook_config_layers hk hcmd hconf layeredHook_apply
  obtain rfl : h' = filledHooks := by
    simpa [layeredHookFilled] using hcmd'.symm
  have hdir : layeredHookFilled.projectDirOrCurrent = "proj" := rfl
  obtain ⟨c, hc, hcres⟩ := (hres hookDisk).2 ⟨"esp", rfl, 'e', by decide, by decide⟩
  rw [hdir, filledHooks_resolve] at hc
  obtain rfl := Except.ok.inj hc
  rw [hdir] at hcres
  exact ⟨hk, hcmd, hconf, layeredHook_apply, hdisc, hdir, filledHooks, hcmd', hfilled, hrun,
    filledHooks_resolve, hcres⟩

end FirmwareStamp.Cli
