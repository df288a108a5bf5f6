import FirmwareStamp.Version.Manifest

/-!
What a package manifest says, in three cases. No manifest path, or a path that leads, links
followed, to no regular file or to one whose bytes are no UTF-8, gives an absent manifest:
a manifest that exists but cannot be read counts as absent, not as malformed. A manifest read
as text gives a version exactly when its document parses, holds a version text where its kind
says (`versionText?`), and that text is a triple; every other readable manifest is
malformed.
-/

namespace FirmwareStamp.Version

/-- The version text of a manifest's contents, read as its path's extension says: for a
`toml` extension in any case, `package.version` when the package is a table holding a
version, else the top-level `version`; for every other path, the top-level `version` of a
JSON document. A document that does not parse, or whose version is no string, has none. -/
def versionText? (path contents : String) : Option String :=
  if (Path.extension? path).any isTomlExtension then
    (Toml.parse contents).toOption.bind fun root =>
      ((((Toml.lookup root "package").bind Toml.Value.asTable?).bind
          (Toml.lookup · "version")).or (Toml.lookup root "version")).bind Toml.Value.asStr?
  else
    (Json.parseValue contents).toOption.bind fun v => (v.field? "version").bind Json.Value.text?

theorem tomlVersion_toOption (contents : String) :
    (tomlVersion contents).toOption =
      (Toml.parse contents).toOption.bind fun root =>
        ((((Toml.lookup root "package").bind Toml.Value.asTable?).bind
            (Toml.lookup · "version")).or (Toml.lookup root "version")).bind Toml.Value.asStr? := by
  unfold tomlVersion
  cases Toml.parse contents with
  | error m => rfl
  | ok root =>
    change _ = ((((Toml.lookup root "package").bind Toml.Value.asTable?).bind
      (Toml.lookup · "version")).or (Toml.lookup root "version")).bind Toml.Value.asStr?
    dsimp only
    rw [← Option.bind_assoc _ Toml.Value.asTable?]
    generalize ((Toml.lookup root "package").bind Toml.Value.asTable?).bind
      (Toml.lookup · "version") = pkg
    cases pkg with
    | none =>
      cases hv : (Toml.lookup root "version").bind Toml.Value.asStr? <;>
        simp [Option.or, hv, Except.toOption]
    | some v => cases hv : v.asStr? <;> simp [Option.or, hv, Except.toOption]

theorem jsonVersion_toOption (contents : String) :
    (jsonVersion contents).toOption =
      (Json.parseValue contents).toOption.bind fun v =>
        (v.field? "version").bind Json.Value.text? := by
  unfold jsonVersion
  cases Json.parseValue contents with
  | error m => rfl
  | ok v =>
    change _ = (v.field? "version").bind Json.Value.text?
    cases hv : (v.field? "version").bind Json.Value.text? <;> simp [hv, Except.toOption]

/-- The version text the reader finds, its reasons for finding none forgotten, is the one
`versionText?` names. -/
theorem rawVersion_toOption (path contents : String) :
    (if (Path.extension? path).any isTomlExtension then tomlVersion contents
      else jsonVersion contents).toOption = versionText? path contents := by
  unfold versionText?
  split
  · exact tomlVersion_toOption contents
  · exact jsonVersion_toOption contents

/-- A manifest's text gives a version exactly when its version text is a triple. -/
theorem ofText_eq_version_iff (path contents : String) (t : Triple) :
    Lookup.ofText path contents = .version t ↔
      (versionText? path contents).bind Triple.parse? = some t := by
  rw [← rawVersion_toOption, Lookup.ofText]
  generalize (if (Path.extension? path).any isTomlExtension then tomlVersion contents
    else jsonVersion contents) = raw
  cases raw with
  | error reason => simp [Except.toOption]
  | ok text => cases hp : Triple.parse? text <;> simp [Except.toOption, hp]

/-- A manifest's text is malformed exactly when it gives no version text that is a triple. -/
theorem ofText_malformed_iff (path contents : String) :
    (∃ raw reason, Lookup.ofText path contents = .malformed raw reason) ↔
      (versionText? path contents).bind Triple.parse? = none := by
  rw [← rawVersion_toOption, Lookup.ofText]
  generalize (if (Path.extension? path).any isTomlExtension then tomlVersion contents
    else jsonVersion contents) = raw
  cases raw with
  | error reason => simp [Except.toOption]
  | ok text => cases hp : Triple.parse? text <;> simp [Except.toOption, hp]

theorem ofText_ne_absent (path contents : String) : Lookup.ofText path contents ≠ .absent := by
  unfold Lookup.ofText
  dsimp only
  split
  · simp
  · split <;> simp

/-- Reading a text succeeds exactly on a regular file, links followed, whose bytes are
UTF-8. -/
theorem readText_eq_ok_iff {d : Disk} {s text : String} :
    d.readText s = .ok text ↔
      ∃ data, d.stat s = .ok (.file data) ∧ Disk.decodeUtf8 data = some text := by
  unfold Disk.readText Disk.readBytes
  rw [← Disk.stat]
  cases hstat : d.stat s with
  | error e => simp
  | ok node =>
    cases node with
    | file data => cases hdec : Disk.decodeUtf8 data <;> simp [hdec]
    | dir | link _ => simp

/-- What a manifest says: it is absent exactly when no path is named or the path leads to no
regular file whose bytes are UTF-8 (nothing there, a directory, or bytes that are no text);
it gives a version exactly when its text gives a version text that is a triple; and it is
malformed exactly when its text can be read but gives no such version. -/
theorem readManifest_cases (d : Disk) (p : Option String) :
    (readManifest d p = .absent ↔
      ∀ path ∈ p, ∀ data, d.stat path = .ok (.file data) → Disk.decodeUtf8 data = none) ∧
    (∀ t, readManifest d p = .version t ↔ ∃ path ∈ p, ∃ text, d.readText path = .ok text ∧
      (versionText? path text).bind Triple.parse? = some t) ∧
    ((∃ raw reason, readManifest d p = .malformed raw reason) ↔ ∃ path ∈ p, ∃ text,
      d.readText path = .ok text ∧ (versionText? path text).bind Triple.parse? = none) := by
  cases p with
  | none => simp [readManifest]
  | some path =>
    simp only [Option.mem_def, Option.some.injEq, forall_eq', exists_eq_left']
    cases hread : d.readText path with
    | error e =>
      have hnone : ∀ data, d.stat path = .ok (.file data) → Disk.decodeUtf8 data = none := by
        intro data hstat
        cases hdec : Disk.decodeUtf8 data with
        | none => rfl
        | some text =>
          have := readText_eq_ok_iff.mpr ⟨data, hstat, hdec⟩
          rw [hread] at this
          cases this
      simpa [readManifest, hread] using hnone
    | ok text =>
      obtain ⟨data, hstat, hdec⟩ := readText_eq_ok_iff.mp hread
      refine ⟨?_, fun t => ?_, ?_⟩
      · simp only [readManifest, hread]
        exact ⟨fun h => absurd h (ofText_ne_absent path text),
          fun h => by simp [h data hstat] at hdec⟩
      · simp [readManifest, hread, ofText_eq_version_iff]
      · simp [readManifest, hread, ofText_malformed_iff]

/-- A disk whose only entry is a directory named like a package manifest. -/
def manifestDirDisk : Disk := ⟨[(["package.json"], .dir)], []⟩

/-- A manifest path that leads to a directory: something is there, yet the manifest counts
as absent, not as malformed. -/
theorem directory_manifest_absent :
    manifestDirDisk.present "package.json" = true ∧
      readManifest manifestDirDisk (some "package.json") = .absent := by
  have hp : Disk.pieces "package.json" = ["package.json"] := by decide
  have hstat : manifestDirDisk.stat "package.json" = .ok .dir := by
    simp +decide [Disk.stat, Disk.locate, Disk.locateWith, Disk.walk, Disk.node?,
      Disk.wantsDir, Except.bind, hp, manifestDirDisk, Place.node]
  refine ⟨by simp [Disk.present, hstat], ?_⟩
  cases hread : manifestDirDisk.readText "package.json" with
  | error e => simp [readManifest, hread]
  | ok text =>
    obtain ⟨data, hfile, -⟩ := readText_eq_ok_iff.mp hread
    rw [hstat] at hfile
    cases hfile

end FirmwareStamp.Version
