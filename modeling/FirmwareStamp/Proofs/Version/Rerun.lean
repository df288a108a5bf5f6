import FirmwareStamp.Proofs.Version.Recompile

/-!
A debug build run twice. A debug run leaves the store holding the record it reconciled, a
regular file at the header path, the manifest as it read it, and no main object where it
removed one. So a second debug run right after finds the record again without writing,
bootstraps nothing, reconciles to the same record with nothing synced, persists nothing,
and a malformed manifest's removal finds nothing left to remove: the second run changes
nothing. This needs the four paths of the version step to lead without links to places
apart from each other; a header path that names the version file through `.` breaks it.
-/

namespace FirmwareStamp.Version

open Disk FirmwareStamp.Action

variable {c : Reconciler} {d d' : Disk} {r : Record} {t : Target} {m : Lookup}
  {res : Reconciliation}

/-- The manifest leads without links to a place apart from the version file, the header and
the main object. -/
def Reconciler.ManifestSeparate (c : Reconciler) (d : Disk) : Prop :=
  ∀ p ∈ c.manifest, d.NoLinks (d.wayOf p) ∧ d.Apart c.store.path p ∧ d.Apart c.header p ∧
    d.Apart c.mainObject p

theorem Reconciler.ManifestSeparate.within {spots ways : List (List String)}
    (hman : c.ManifestSeparate d) (hw : Within spots ways d d') : c.ManifestSeparate d' := by
  intro p hp
  obtain ⟨hclear, hv, hh, ho⟩ := hman p hp
  exact ⟨hw.noLinks_wayOf hclear, hv.of_cwd hw.cwd, hh.of_cwd hw.cwd,
    ho.of_cwd hw.cwd⟩

/-- The ways of the manifest pass none of the places the version step writes or removes. -/
theorem Reconciler.ManifestSeparate.off (hman : c.ManifestSeparate d) :
    ∀ p ∈ c.manifest, ∀ q ∈ d.wayOf p,
      q ∉ [d.placeOf c.store.path, d.placeOf c.header, d.placeOf c.mainObject] := by
  intro p hp q hq hmem
  obtain ⟨-, hv, hh, ho⟩ := hman p hp
  simp only [List.mem_cons, List.not_mem_nil, or_false] at hmem
  rcases hmem with rfl | rfl | rfl
  exacts [hv.2.1 hq, hh.2.1 hq, ho.2.1 hq]

/-- A manifest that was read reads the same after a change off its way. -/
theorem readManifest_within {spots ways : List (List String)} {man : Option String}
    (hw : Within spots ways d d') (hclear : ∀ p ∈ man, d.NoLinks (d.wayOf p))
    (hoff : ∀ p ∈ man, ∀ q ∈ d.wayOf p, q ∉ spots) (hread : readManifest d man ≠ .absent) :
    readManifest d' man = readManifest d man := by
  cases man with
  | none => exact absurd rfl hread
  | some p =>
    cases ht : d.readText p with
    | error e => simp [readManifest, ht] at hread
    | ok text =>
      have ht' := readText_within hw (hclear p rfl) (hoff p rfl) ht
      simp [readManifest, ht, ht']

/-- The reconciled record already carries the manifest's triple, when it has one. -/
theorem tripleOr_reconciled (h : reconcile r t m = .ok res) :
    m.tripleOr res.record = res.record.triple := by
  cases m with
  | version tr => simp [Lookup.tripleOr, Lookup.triple?, reconciled_triple h]
  | absent | malformed => simp [Lookup.tripleOr, Lookup.triple?]

/-- Reconciling a reconciled record again for a debug target, with the same manifest, gives
it back with nothing synced. -/
theorem reconcile_again_debug (ht : t.isDebug = true) (h : reconcile r t m = .ok res) :
    reconcile res.record t m = .ok ⟨res.record, false, false, true⟩ := by
  rw [reconcile_eq, if_neg (by simp [ht]), tripleOr_reconciled h]
  simp [ht, Record.triple]

/-- Removing a stale main object a second time finds nothing to remove. -/
theorem recompileIfStale_again {b : Bool} (hclear : d.NoLinks (d.wayOf c.mainObject))
    (h : (c.recompileIfStale m r).run d = (.ok b, d')) :
    (c.recompileIfStale m r).run d' = (.ok false, d') := by
  obtain ⟨hstale, hfresh⟩ := recompileIfStale_ok h
  by_cases hm : m.agrees r = some false
  · have hnf : d'.removeFile c.mainObject = .error .notFound := by
      rcases forceRecompile_ok (hstale hm) with ⟨-, hrm⟩ | ⟨-, hnf, rfl⟩
      · exact removeFile_again hclear hrm
      · exact hnf
    simp [Reconciler.recompileIfStale, hm, forceRecompile, run_bind, hnf]
  · exact recompileIfStale_fresh hm

/-- A debug version step that succeeded, with the version file, the header, the manifest and
the main object leading without links to places apart from each other, is followed by a
second debug run that succeeds with the same record, synced, counted, bootstrapped, persisted
and recompiled nothing, and leaves the disk as it was. -/
theorem debug_rerun_settled {o : Outcome} (hlay : c.Layout d) (hman : c.ManifestSeparate d)
    (ht : t.isDebug = true) (h : (c.run t).run d = (.ok o, d')) :
    (c.run t).run d' =
      (.ok ⟨⟨o.reconciliation.record, false, false, true⟩, false, false, false⟩, d') := by
  obtain ⟨r0, d1, d2, d3, hload, hboot, hrec, -, hpersist, hstale⟩ := run_ok h
  obtain ⟨hloaded, hw1, -⟩ := load_effect hlay.clearVersion hload
  have hst0 : c.Stands d r0 false false :=
    ⟨hlay, hloaded, (fun hb => by cases hb), (fun hb => by cases hb)⟩
  obtain ⟨-, -, hst⟩ := hst0.run h
  have hlay1 := hlay.within hw1
  obtain ⟨-, hw2, -⟩ := bootstrap_effect hlay1.clearHeader hboot
  have hlay2 := hlay1.within hw2
  have hw3 := persist_within hlay2.clearVersion hlay2.clearHeader hpersist
  have hlay3 := hlay2.within hw3
  obtain ⟨hw4, -, -⟩ := recompileIfStale_effect hlay3.clearObject hstale
  have hfile2 : d2.isFile c.header = true := by
    rcases bootstrap_ok hboot with ⟨hf, -, rfl⟩ | ⟨-, -, hproject⟩
    · exact hf
    · exact isFile_of_readText (writeFile_readText hproject)
  have hfile3 : d3.isFile c.header = true := by
    cases hch : o.reconciliation.changed
    · rw [(persist_ok hpersist).2 hch]
      exact hfile2
    · exact isFile_of_readText (persist_reads hlay2 hpersist hch).2
  have hfile : d'.isFile c.header = true :=
    isFile_keep hlay3.clearHeader (hw4.keepsWay (off_single hlay3.headerObject.2.2)) hfile3
  have hseen : readManifest d' c.manifest = readManifest d2 c.manifest := by
    by_cases habs : readManifest d2 c.manifest = .absent
    · have hch : o.reconciliation.changed = false := by
        obtain ⟨-, hch, -⟩ := reconcile_ok hrec
        rw [hch, habs]
        simp [Lookup.tripleOr, Lookup.triple?, ht]
      have h4 : d' = d3 :=
        ((recompileIfStale_ok hstale).2 (by rw [habs]; simp [Lookup.agrees])).2
      rw [h4, (persist_ok hpersist).2 hch]
    · have hman2 := hman.within (hw1.trans hw2)
      rw [placeOf_of_cwd hw3.cwd] at hw4
      exact readManifest_within ((hw3.trans hw4).mono (by simp) (List.Subset.refl _))
        (fun p hp => (hman2 p hp).1) hman2.off habs
  exact run_of_steps hst.load (bootstrap_present hfile) (hseen ▸ reconcile_again_debug ht hrec)
    rfl (hseen ▸ recompileIfStale_again hlay3.clearObject hstale)

theorem Reconciler.ManifestSeparate.of_cwd (hman : c.ManifestSeparate d)
    (hcwd : d'.cwd = d.cwd) (hlinks : ∀ q t, d'.node? q ≠ some (.link t)) :
    c.ManifestSeparate d' := by
  intro p hp
  obtain ⟨-, hv, hh, ho⟩ := hman p hp
  exact ⟨fun q _ => hlinks q, hv.of_cwd hcwd, hh.of_cwd hcwd, ho.of_cwd hcwd⟩

theorem manifest_separate_blank : manifestReconciler.ManifestSeparate blankDisk := by
  intro p hp
  obtain rfl : p = "m.json" := by simpa [manifestReconciler] using hp.symm
  refine ⟨fun q _ => node?_ne_link (by simp [blankDisk]) q, ?_⟩
  simp only [Disk.Apart, manifestReconciler]
  decide

theorem tagged_no_links : ∀ q t, taggedDisk.node? q ≠ some (.link t) :=
  node?_ne_link (by simp [taggedDisk, plainEnd])

theorem tagged_layout : manifestReconciler.Layout taggedDisk :=
  (layout_blank rfl rfl rfl).of_cwd rfl tagged_no_links

/-- A debug run that synced the record to the manifest and persisted it, and one that read a
malformed manifest and removed the main object: each is settled, the run right after changes
nothing. -/
theorem synced_and_forced_runs_settle :
    (manifestReconciler.run ⟨"esp_debug"⟩).run taggedDisk =
      (.ok ⟨⟨taggedRecord, true, false, true⟩, false, true, false⟩, taggedEnd) ∧
    (manifestReconciler.run ⟨"esp_debug"⟩).run taggedEnd =
      (.ok ⟨⟨taggedRecord, false, false, true⟩, false, false, false⟩, taggedEnd) ∧
    (manifestReconciler.run ⟨"esp_debug"⟩).run objectDisk =
      (.ok ⟨⟨Record.initial "fw", false, false, true⟩, true, false, true⟩, objectEnd) ∧
    (manifestReconciler.run ⟨"esp_debug"⟩).run objectEnd =
      (.ok ⟨⟨Record.initial "fw", false, false, true⟩, false, false, false⟩, objectEnd) :=
  ⟨tagged_run, debug_rerun_settled tagged_layout
    (manifest_separate_blank.of_cwd rfl tagged_no_links) (by decide +kernel) tagged_run,
    object_run, debug_rerun_settled object_layout
    (manifest_separate_blank.of_cwd rfl object_no_links) (by decide +kernel) object_run⟩

/-- A header path that names the version file through `.`, with a package manifest. -/
def syncAliasReconciler : Reconciler :=
  ⟨⟨"prog_ver.json", "esp-light"⟩, "./prog_ver.json", some "package.json", "main.o"⟩

/-- A disk holding a package manifest of version 1.0.0. -/
def packageDisk : Disk := ⟨[(["package.json"], .file "\x7b\"version\": \"1.0.0\"\x7d".toUTF8.toList)], []⟩

/-- The initial record synced to version 1.0.0. -/
def syncedRecord : Record := ⟨"esp-light", 1, 0, 0, 0⟩

/-- The package disk with the initial record saved. -/
def syncLoaded : Disk :=
  ⟨packageDisk.entries ++
    [(["prog_ver.json"], .file (Record.initial "esp-light").renderJson.toUTF8.toList)], []⟩

/-- The package disk with the synced record saved. -/
def syncSaved : Disk :=
  ⟨packageDisk.entries ++ [(["prog_ver.json"], .file syncedRecord.renderJson.toUTF8.toList)], []⟩

/-- The disk the first run leaves: the header of the synced record where the version file is. -/
def syncEnd : Disk :=
  ⟨packageDisk.entries ++ [(["prog_ver.json"], .file (renderHeader syncedRecord).toUTF8.toList)],
    []⟩

theorem pieces_package : pieces "package.json" = ["package.json"] := by decide

theorem sync_load : syncAliasReconciler.store.load.run packageDisk =
    (.ok (Record.initial "esp-light"), syncLoaded) := by
  refine load_absent ?_ (writeFile_of (makeParents_top parent_version_top) ?_)
  · simp +decide [Disk.present, Disk.stat, Disk.locate, Disk.locateWith, packageDisk,
      syncAliasReconciler, Disk.walk, Disk.node?, pieces_version_top, Disk.wantsDir, Except.bind,
      Place.node]
  · simp +decide [syncAliasReconciler, Disk.writeText, Disk.writeBytes, Disk.writePlace,
      Disk.locate, Disk.locateWith, packageDisk, syncLoaded, Disk.walk, Disk.node?,
      pieces_version_top, Disk.wantsDir, Disk.put, Except.map]

theorem sync_header_isFile : syncLoaded.isFile syncAliasReconciler.header = true := by
  simp +decide [syncAliasReconciler, Disk.isFile, Disk.stat, Disk.locate, Disk.locateWith,
    syncLoaded, packageDisk, Disk.walk, Disk.node?, pieces_alias, Disk.wantsDir, Except.bind,
    Place.node]

theorem sync_manifest : readManifest syncLoaded syncAliasReconciler.manifest = .version ⟨1, 0, 0⟩ := by
  have hloc : syncLoaded.locate true "package.json" =
      .ok (.found ["package.json"] (.file "\x7b\"version\": \"1.0.0\"\x7d".toUTF8.toList) false) := by
    simp +decide [Disk.locate, Disk.locateWith, syncLoaded, packageDisk, Disk.walk, Disk.node?,
      pieces_package, Disk.wantsDir]
  have htext : Lookup.ofText "package.json" "\x7b\"version\": \"1.0.0\"\x7d" = .version ⟨1, 0, 0⟩ := by
    decide +kernel
  simp only [syncAliasReconciler, readManifest, readText_found hloc, htext]

theorem sync_persist : (syncAliasReconciler.persist ⟨syncedRecord, true, false, true⟩).run
    syncLoaded = (.ok (), syncEnd) := by
  have hsave : (syncAliasReconciler.store.save syncedRecord).run syncLoaded = (.ok (), syncSaved) := by
    refine writeFile_of (makeParents_top parent_version_top) ?_
    simp +decide [syncAliasReconciler, Disk.writeText, Disk.writeBytes, Disk.writePlace,
      Disk.locate, Disk.locateWith, syncLoaded, syncSaved, packageDisk, Disk.walk, Disk.node?,
      pieces_version_top, Disk.wantsDir, Disk.put, Except.map]
  have hdirs : syncSaved.createDirAll "." = (syncSaved, none) := by
    have hdot : pieces "." = ["."] := by decide
    simp +decide [Disk.createDirAll, Disk.createDirAll.go, Disk.createDir, Disk.locateLast,
      Disk.locateWith, Disk.walk, hdot, Disk.isDir, Disk.stat, Disk.locate, Disk.wantsDir,
      Except.bind, Place.node]
  refine persist_changed rfl hsave (writeFile_of (makeParents_made parent_alias rfl hdirs) ?_)
  simp +decide [syncAliasReconciler, Disk.writeText, Disk.writeBytes, Disk.writePlace,
    Disk.locate, Disk.locateWith, syncSaved, syncEnd, packageDisk, Disk.walk, Disk.node?,
    pieces_alias, Disk.wantsDir, Disk.put, Except.map]

/-- The first debug run through the aliased header syncs the record to the manifest and
persists it, writing the header over the version file. -/
theorem sync_run : (syncAliasReconciler.run ⟨"esp_debug"⟩).run packageDisk =
    (.ok ⟨⟨syncedRecord, true, false, true⟩, false, true, false⟩, syncEnd) := by
  have hrec : reconcile (Record.initial "esp-light") ⟨"esp_debug"⟩
      (readManifest syncLoaded syncAliasReconciler.manifest) =
        .ok ⟨syncedRecord, true, false, true⟩ := by
    rw [sync_manifest]
    decide +kernel
  exact run_of_steps sync_load (bootstrap_present sync_header_isFile) hrec sync_persist
    (recompileIfStale_fresh (by rw [sync_manifest]; decide))

theorem syncEnd_readText : syncEnd.readText "prog_ver.json" = .ok (renderHeader syncedRecord) := by
  have hmax : ¬ pathMax ≤ "prog_ver.json".utf8ByteSize := by decide
  have hshort : tooLong "prog_ver.json" = false := by decide
  have hroot : Path.hasRoot "prog_ver.json" = false := by decide
  have hnode : syncEnd.node? ["prog_ver.json"] =
      some (.file (renderHeader syncedRecord).toUTF8.toList) := by
    simp [syncEnd, packageDisk, Disk.node?]
  have hloc : syncEnd.locate true "prog_ver.json" =
      .ok (.found ["prog_ver.json"] (.file (renderHeader syncedRecord).toUTF8.toList) false) := by
    simp [hmax, hshort, hroot, show syncEnd.cwd = [] from rfl, Disk.locate, Disk.locateWith,
      Disk.walk, hnode, pieces_version_top, Disk.wantsDir]
  exact readText_found hloc

/-- Paths that differ as texts, none a directory above another, with the header naming the
version file through `.`: a debug run that syncs the record to the manifest succeeds, but
the second debug run right after fails, since the header now stands where the record was. -/
theorem synced_alias_rerun_fails :
    (syncAliasReconciler.run ⟨"esp_debug"⟩).run packageDisk =
      (.ok ⟨⟨syncedRecord, true, false, true⟩, false, true, false⟩, syncEnd) ∧
    ∃ m, (syncAliasReconciler.run ⟨"esp_debug"⟩).run syncEnd =
      (.error (.corrupt "prog_ver.json" m), syncEnd) := by
  refine ⟨sync_run, ?_⟩
  obtain ⟨m, hm⟩ := parseJson_renderHeader syncedRecord
  have hload := load_corrupt (s := syncAliasReconciler.store)
    (present_of_isFile (isFile_of_readText syncEnd_readText)) syncEnd_readText hm
  refine ⟨m, ?_⟩
  unfold Reconciler.run
  simp only [run_bind, hload]
  rfl

end FirmwareStamp.Version
