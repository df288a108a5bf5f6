import FirmwareStamp.Proofs.Version.Session
import FirmwareStamp.Hook.Config

/-!
The two build hooks agree on the version. The hook before the main source is compiled
reconciles and persists the record; the hook after the product is made names the product
after the record it reads back from the version file. With the paths of the version step
apart, that is the record the first hook gave: a release product carries its long
version, a debug product none.
-/

namespace FirmwareStamp.Hook

open Version Disk FirmwareStamp.Action

variable {d d' : Disk}

theorem run_map {ε α β : Type} (f : α → β) (x : Action ε α) (d : Disk) :
    (f <$> x).run d =
      match x.run d with
      | (.ok a, d') => (.ok (f a), d')
      | (.error e, d') => (.error e, d') := by
  rw [map_eq_pure_bind, run_bind]
  rcases x.run d with ⟨e | a, d'⟩ <;> rfl

theorem HookConfig.publisher_store (c : HookConfig) : c.publisher.store = c.store := rfl

theorem HookConfig.publisher_outputDir (c : HookConfig) :
    c.publisher.outputDir = c.outputDir := rfl

/-- A debug product is named without a version, whatever record is at hand. -/
theorem artifactFileName_debug {t : Target} (h : t.isDebug = true) (r : Record) :
    artifactFileName t (some r) = artifactFileName t none := by
  simp [artifactFileName, h]

/-- The destination in closed form: a debug product goes under its bare name, a release
product needs a version file that is there and loads. -/
theorem destination_run (p : Publisher) (t : Target) (d : Disk) :
    (p.destination t).run d =
      if t.isDebug then (.ok (Path.join p.outputDir (artifactFileName t none)), d)
      else if d.present p.store.path then
        match p.store.load.run d with
        | (.ok r, d') => (.ok (Path.join p.outputDir (artifactFileName t (some r))), d')
        | (.error e, d') => (.error (.version e), d')
      else (.error (.version (.missing p.store.path)), d) := by
  unfold Publisher.destination
  cases hdebug : t.isDebug
  · cases hp : d.present p.store.path
    · simp [run_bind, run_map, run_mapError, Store.loadExisting, hp]
    · simp [run_bind, run_map, run_mapError, Store.loadExisting, hp]
      rcases p.store.load.run d with ⟨e | r, d'⟩ <;> rfl
  · simp

/-- A release destination was found only through a version file that is a regular file
and loads, without writing, the record the name carries. -/
theorem destination_release_ok {p : Publisher} {t : Target} {dst : String}
    (hdebug : t.isDebug = false) (h : (p.destination t).run d = (.ok dst, d')) :
    d' = d ∧ d.isFile p.store.path = true ∧
      ∃ r, p.store.load.run d = (.ok r, d) ∧ dst = Path.join p.outputDir (artifactFileName t (some r)) := by
  rw [destination_run] at h
  simp only [hdebug, Bool.false_eq_true, if_false] at h
  split at h
  · rename_i hp
    rw [load_run_present hp] at h ⊢
    rcases ht : d.readText p.store.path with e | text
    · simp [ht] at h
    · rcases hr : Record.parseJson text with m | r
      · simp [ht, hr] at h
      · simp only [ht, hr, Prod.mk.injEq, Except.ok.injEq] at h
        obtain ⟨rfl, rfl⟩ := h
        exact ⟨rfl, isFile_of_readText ht, r, by simp [hr], rfl⟩
  · simp at h

/-- Where the version file loads without writing, the destination is named after the
record it holds. -/
theorem destination_of_load {p : Publisher} {t : Target} {r : Record}
    (hload : p.store.load.run d = (.ok r, d)) :
    (p.destination t).run d = (.ok (Path.join p.outputDir (artifactFileName t (some r))), d) := by
  unfold Publisher.destination
  cases hd : t.isDebug
  · have hp : d.present p.store.path = true := by
      rcases load_ok hload with ⟨hp, -⟩ | ⟨hp, -, hsave⟩
      · exact hp
      · have ht := writeFile_readText hsave
        rw [isFile_of_readText ht |> present_of_isFile] at hp
        cases hp
    simp [run_bind, run_map, run_mapError, Store.loadExisting, hp, hload]
  · simp [hd, artifactFileName]

/-- After the hook before the main source succeeded, on a disk where the version file, the
header and the main object lead without links to places apart from each other, and with
nothing written since, the product is published under the name the reconciled record calls
for. -/
theorem destination_after_pre_build {c : HookConfig} {o : Outcome} (hlay : c.reconciler.Layout d)
    (h : c.beforeMainCompile.run d = (.ok o, d')) :
    (c.publisher.destination c.target).run d' =
      (.ok (Path.join c.outputDir
        (artifactFileName c.target (some o.reconciliation.record))), d') := by
  obtain ⟨r, d1, d2, d3, hload, -⟩ := run_ok h
  have hst : c.reconciler.Stands d r false false :=
    ⟨hlay, (load_effect hlay.clearVersion hload).1, (fun h => by cases h), (fun h => by cases h)⟩
  obtain ⟨-, -, hst'⟩ := hst.run h
  exact destination_of_load hst'.load

/-- A hook with the plain names of the version step. -/
def plainHook : HookConfig :=
  ⟨".", "fw", ⟨"esp"⟩, "v.json", "h.h", "p.json", "b", "f.bin", "o.o", "out"⟩

theorem plain_hook_run : plainHook.beforeMainCompile.run blankDisk =
    (.ok ⟨⟨plainRecord, false, true, false⟩, true, true, false⟩, plainEnd) := by
  have hp : pieces "p.json" = ["p.json"] := by decide
  have hnone : readManifest ⟨[(["v.json"], .file (Record.initial "fw").renderJson.toUTF8.toList),
      (["h.h"], .file (renderHeader (Record.initial "fw")).toUTF8.toList)], []⟩
      plainHook.reconciler.manifest = .absent := by
    simp +decide [plainHook, HookConfig.reconciler, readManifest, Disk.readText, Disk.readBytes,
      Disk.locate, Disk.locateWith, Disk.walk, Disk.node?, hp, Disk.wantsDir, Except.bind,
      Place.node]
  have hrec : reconcile (Record.initial "fw") ⟨"esp"⟩ .absent =
      .ok ⟨plainRecord, false, true, false⟩ := by decide
  exact run_of_steps plain_load plain_boot (hnone ▸ hrec) plain_persist
    (recompileIfStale_fresh (by rw [hnone]; decide))

theorem plain_hook_layout : plainHook.reconciler.Layout blankDisk := layout_blank rfl rfl rfl

theorem plain_hook_destination :
    (plainHook.publisher.destination plainHook.target).run plainEnd =
      (.ok (Path.join "out" (artifactFileName ⟨"esp"⟩ (some plainRecord))), plainEnd) := by
  have h := destination_after_pre_build plain_hook_layout plain_hook_run
  exact h

/-- A hook whose header path names the version file by another text. -/
def aliasHook : HookConfig :=
  ⟨".", "esp-light", ⟨"esp"⟩, "prog_ver.json", "./prog_ver.json", "package.json", "b",
    "firmware.bin", "main.o", "bin"⟩

theorem alias_hook_run : aliasHook.beforeMainCompile.run blankDisk =
    (.ok ⟨⟨aliasRecord, false, true, false⟩, false, true, false⟩, aliasEnd) := by
  have hp : pieces "package.json" = ["package.json"] := by decide
  have hnone : readManifest
      ⟨[(["prog_ver.json"], .file (Record.initial "esp-light").renderJson.toUTF8.toList)], []⟩
      aliasHook.reconciler.manifest = .absent := by
    simp +decide [aliasHook, HookConfig.reconciler, readManifest, Disk.readText, Disk.readBytes,
      Disk.locate, Disk.locateWith, Disk.walk, Disk.node?, hp, Disk.wantsDir, Except.bind,
      Place.node]
  have hrec : reconcile (Record.initial "esp-light") ⟨"esp"⟩ .absent =
      .ok ⟨aliasRecord, false, true, false⟩ := by decide
  exact run_of_steps alias_load (bootstrap_present alias_header_isFile) (hnone ▸ hrec)
    alias_persist (recompileIfStale_fresh (by rw [hnone]; decide))

/-- With the header naming the version file by another text, the pre-build hook succeeds
but the publisher no longer finds a record: the header was written over it. -/
theorem aliased_hook_destination_fails :
    aliasHook.beforeMainCompile.run blankDisk =
      (.ok ⟨⟨aliasRecord, false, true, false⟩, false, true, false⟩, aliasEnd) ∧
    ∃ m, (aliasHook.publisher.destination aliasHook.target).run aliasEnd =
      (.error (.version (.corrupt "prog_ver.json" m)), aliasEnd) := by
  obtain ⟨m, hm⟩ := aliasEnd_load_corrupt
  have hp : aliasEnd.present "prog_ver.json" = true :=
    present_of_isFile (isFile_of_readText aliasEnd_readText)
  refine ⟨alias_hook_run, m, ?_⟩
  have hload : aliasHook.publisher.store.load.run aliasEnd =
      (.error (.corrupt "prog_ver.json" m), aliasEnd) := hm
  simp [Publisher.destination, run_bind, run_map, run_mapError, Store.loadExisting,
    show aliasHook.publisher.store.path = "prog_ver.json" from rfl, hp, hload,
    show aliasHook.target.isDebug = false from rfl]

end FirmwareStamp.Hook
