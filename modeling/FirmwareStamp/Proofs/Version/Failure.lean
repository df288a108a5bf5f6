import FirmwareStamp.Proofs.Version.Steps
import FirmwareStamp.Proofs.Version.RecordText
import FirmwareStamp.Proofs.Version.Reconcile

/-!
What a failed version step leaves behind. A run fails in one of three ways: a disk
operation fails, the version file holds no record, or a release build finds the build
counter full. A version file without a record is found while loading, before anything is
written, so the disk is as it was. A full counter is found only after the header was
bootstrapped, so the disk is as it was exactly when a regular file already stood at the
header's path; otherwise the header and the directories above it stay behind.
-/

namespace FirmwareStamp.Version

open Disk FirmwareStamp.Action

variable {c : Reconciler} {target : Target} {d d' : Disk}

/-- A record loaded with a full counter was read from the version file, which the load
leaves as it was. -/
theorem load_full {r : Record} (h : c.store.load.run d = (.ok r, d')) (hmax : r.build = maxWord) :
    d' = d := by
  rcases load_ok h with ⟨-, rfl, -⟩ | ⟨-, rfl, -⟩
  · rfl
  · simp [Record.initial, maxWord] at hmax

/-- Every failure of a run: a disk error; a version file without a record, which leaves
the disk as it was; or a full build counter, which leaves the disk as it was exactly when
a regular file was already at the header's path. -/
theorem run_error_disk {e : VersionError} (h : (c.run target).run d = (.error e, d')) :
    (∃ p cause, e = .io p cause) ∨ (∃ m, e = .corrupt c.store.path m ∧ d' = d) ∨
      (∃ x, e = .exhausted x ∧ (d' = d ↔ d.isFile c.header = true)) := by
  rcases run_error h with hload | ⟨r0, d1, hload, hboot | ⟨b, x, hboot, hrec, rfl⟩ | hio⟩
  · rcases load_error hload with ⟨-, rfl, m, rfl⟩ | ⟨-, hsave⟩
    · exact Or.inr (Or.inl ⟨m, rfl, rfl⟩)
    · exact Or.inl (writeFile_error hsave)
  · exact Or.inl (writeFile_error (bootstrap_error hboot).2)
  · obtain ⟨-, hmax, -⟩ := reconcile_error hrec
    obtain rfl := load_full hload hmax
    refine Or.inr (Or.inr ⟨x, rfl, ?_⟩)
    rcases bootstrap_ok hboot with ⟨hfile, -, rfl⟩ | ⟨hfile, -, hproject⟩
    · simp [hfile]
    · have hnow : d'.isFile c.header = true := isFile_of_readText (writeFile_readText hproject)
      rw [hfile, Bool.false_eq_true, iff_false]
      rintro rfl
      simp [hfile] at hnow
  · exact Or.inl hio

/-- A record whose build counter is full. -/
def fullRecord : Record := ⟨"esp-light", 1, 2, 3, maxWord⟩

/-- A disk holding that record as its version file, and no header. -/
def fullDisk : Disk :=
  ⟨[(["data"], .dir), (["data", "prog_ver.json"], .file fullRecord.renderJson.toUTF8.toList)], []⟩

/-- The paths a firmware project uses, with a package manifest that is not there. -/
def sampleReconciler : Reconciler :=
  ⟨⟨"data/prog_ver.json", "esp-light"⟩, "include/ProgVersion.h", some "package.json",
    ".pio/build/esp/src/main.cpp.o"⟩

/-- The same disk with the header of the record written. -/
def headerDisk : Disk :=
  ⟨fullDisk.entries ++ [(["include"], .dir),
    (["include", "ProgVersion.h"], .file (renderHeader fullRecord).toUTF8.toList)], []⟩

theorem pieces_version : pieces "data/prog_ver.json" = ["data", "prog_ver.json"] := by decide
theorem pieces_header : pieces "include/ProgVersion.h" = ["include", "ProgVersion.h"] := by decide
theorem pieces_include : pieces "include" = ["include"] := by decide
theorem parent_header : Path.parent? "include/ProgVersion.h" = some "include" := by decide

theorem load_fullDisk :
    (Store.load ⟨"data/prog_ver.json", "esp-light"⟩).run fullDisk = (.ok fullRecord, fullDisk) := by
  have hloc : fullDisk.locate true "data/prog_ver.json" =
      .ok (.found ["data", "prog_ver.json"] (.file fullRecord.renderJson.toUTF8.toList) false) := by
    simp +decide [Disk.locate, Disk.locateWith, fullDisk, Disk.walk, Disk.node?, pieces_version,
      Disk.wantsDir]
  refine load_present ?_ ?_ (Json.parseJson_renderJson fullRecord)
  · simp [Disk.present, Disk.stat, hloc, Except.bind, Place.node]
  · simp [Disk.readText, Disk.readBytes, hloc, Except.bind, Place.node,
      String.toUTF8_eq_toByteArray, decodeUtf8_toByteArray]

theorem project_fullDisk :
    (project "include/ProgVersion.h" fullRecord).run fullDisk = (.ok (), headerDisk) := by
  have hdirs : fullDisk.createDirAll "include" = (fullDisk.put ["include"] .dir, none) := by
    simp +decide [Disk.createDirAll, Disk.createDirAll.go, Disk.createDir, Disk.locateLast,
      Disk.locateWith, fullDisk, Disk.walk, Disk.node?, pieces_include]
  have hwrite : (fullDisk.put ["include"] .dir).writeText "include/ProgVersion.h"
      (renderHeader fullRecord) = .ok headerDisk := by
    simp +decide [Disk.writeText, Disk.writeBytes, Disk.writePlace, Disk.locate, Disk.locateWith,
      fullDisk, headerDisk, Disk.walk, Disk.node?, pieces_header, Disk.wantsDir, Disk.put,
      Except.map]
  simp [project, writeFile, makeParents, parent_header, run_bind, run_attemptPartly, hdirs,
    run_attempt, hwrite]

/-- A release run on that disk writes the header, then finds the counter full. -/
theorem run_fullDisk :
    (sampleReconciler.run ⟨"esp"⟩).run fullDisk =
      (.error (.exhausted ⟨"esp-light", maxWord⟩), headerDisk) := by
  have hfile : fullDisk.isFile "include/ProgVersion.h" = false := by
    simp +decide [Disk.isFile, Disk.stat, Disk.locate, Disk.locateWith, fullDisk, Disk.walk,
      Disk.node?, pieces_header, Disk.wantsDir, Except.bind]
  have hboot := bootstrap_absent hfile project_fullDisk
  have hrec : ∀ m, reconcile fullRecord ⟨"esp"⟩ m = .error ⟨"esp-light", maxWord⟩ := by
    intro m
    rw [reconcile_eq, if_pos (by decide)]
    rfl
  unfold Reconciler.run
  simp only [run_bind, load_fullDisk, sampleReconciler, hboot, run_get, hrec, run_throw]

theorem full_counter_run_classified :
    (sampleReconciler.run ⟨"esp"⟩).run fullDisk =
      (.error (.exhausted ⟨"esp-light", maxWord⟩), headerDisk) ∧
    (headerDisk = fullDisk ↔ fullDisk.isFile "include/ProgVersion.h" = true) := by
  refine ⟨run_fullDisk, ?_⟩
  rcases run_error_disk run_fullDisk with ⟨p, cause, h⟩ | ⟨m, h, -⟩ | ⟨x, h, hiff⟩
  · cases h
  · cases h
  · exact hiff

/-- A run that fails on a full counter can leave a new directory and a new file behind. -/
theorem full_counter_run_writes_header :
    (sampleReconciler.run ⟨"esp"⟩).run fullDisk =
      (.error (.exhausted ⟨"esp-light", maxWord⟩), headerDisk) ∧
    fullDisk.node? ["include"] = none ∧ headerDisk.node? ["include"] = some .dir ∧
    fullDisk.node? ["include", "ProgVersion.h"] = none ∧
    headerDisk.node? ["include", "ProgVersion.h"] =
      some (.file (renderHeader fullRecord).toUTF8.toList) := by
  refine ⟨run_fullDisk, ?_⟩
  simp +decide [Disk.node?, fullDisk, headerDisk]

end FirmwareStamp.Version
