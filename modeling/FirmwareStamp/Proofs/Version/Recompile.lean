import FirmwareStamp.Proofs.Version.Session

/-!
When a version step removes the compiled main object. The manifest the step read decides:
an absent one gives nothing to compare with, and a well-formed version always agrees with
the reconciled record, which took its triple; only a malformed manifest disagrees, and then
whatever other than a directory stands at the main object's path is removed. The earlier
steps write only the version file and the header, so where the main object's path leads
without links to a place apart from both, they never reach it; on a disk that is a tree,
with a main-object path that never goes up, what stands there when the removal runs is what
stood there before the step.
-/

namespace FirmwareStamp.Disk

variable {d d' : Disk} {s : String}

/-- Something other than a directory stands at a path text itself, a final link not
followed: what removing a file there takes away. -/
def HoldsLeaf (d : Disk) (s : String) : Prop :=
  ∃ p n sl, d.locateLast s = .ok (.found p n sl) ∧ n ≠ .dir

theorem holdsLeaf_of_removeFile (h : d.removeFile s = .ok d') : d.HoldsLeaf s := by
  unfold removeFile at h
  split at h
  · cases h
  · rename_i p n sl hn hloc
    exact ⟨p, n, sl, hloc, hn⟩
  · cases h
  · cases h

/-- A removal where something other than a directory stands does not find the place empty. -/
theorem removeFile_ne_notFound (h : d.HoldsLeaf s) : d.removeFile s ≠ .error .notFound := by
  obtain ⟨p, n, sl, hloc, hn⟩ := h
  unfold removeFile
  rw [hloc]
  cases n with
  | dir => exact absurd rfl hn
  | file | link => dsimp only; split <;> simp

/-- Without links on the way, nothing stands at a path text whose place is empty. -/
theorem not_holdsLeaf_of_none (hclear : d.NoLinks (d.wayOf s))
    (hnone : d.node? (d.placeOf s) = none) : ¬d.HoldsLeaf s := by
  rintro ⟨p, n, sl, hloc, hn⟩
  obtain ⟨hpath, -, -, hnode, -⟩ := locateWith_place hclear hloc
  have hentry := hnode (by simpa [Place.entry] using hn)
  simp only [Place.path, Place.entry] at hpath hentry
  rw [hpath, hnone] at hentry
  cases hentry

/-- On a tree, a change that keeps the way of a path text that never goes up, and keeps the
place it ends at, keeps whether something other than a directory stands there. -/
theorem holdsLeaf_stable {spots ways : List (List String)} (htree : d.Tree) (hdirect : Direct s)
    (hclear : d.NoLinks (d.wayOf s)) (hw : Within spots ways d d')
    (hway : ∀ q ∈ d.wayOf s, q ∉ spots) (hspot : d.placeOf s ∉ spots)
    (hplace : d.placeOf s ∉ ways) : d'.HoldsLeaf s ↔ d.HoldsLeaf s := by
  rcases hw.way_kept_or_empty htree hdirect hway hspot hplace with hsame | ⟨hnone, hnone'⟩
  · simp only [HoldsLeaf, locateLast, locateWith_congr hw.cwd hclear hsame]
  · exact iff_of_false (not_holdsLeaf_of_none (hw.noLinks_wayOf hclear) hnone')
      (not_holdsLeaf_of_none hclear hnone)

end FirmwareStamp.Disk

namespace FirmwareStamp.Version

open Disk FirmwareStamp.Action

variable {c : Reconciler} {d d' d1 d2 d3 : Disk} {r r0 : Record} {t : Target} {m : Lookup}
  {res : Reconciliation}

/-- A reconciled record took the manifest's well-formed triple. -/
theorem reconciled_triple {tr : Triple} (h : reconcile r t (.version tr) = .ok res) :
    res.record.triple = tr := by
  obtain ⟨hrec, -, -⟩ := reconcile_ok h
  simp [hrec, Record.triple, Lookup.tripleOr, Lookup.triple?]

/-- After a reconciliation the manifest disagrees with the record exactly when it is
malformed: a well-formed version was taken into the record, and an absent one compares
with nothing. -/
theorem agrees_reconciled_false (h : reconcile r t m = .ok res) :
    m.agrees res.record = some false ↔ ∃ raw reason, m = .malformed raw reason := by
  cases m with
  | absent => simp [Lookup.agrees]
  | malformed raw reason => simp [Lookup.agrees]
  | version tr => simp [Lookup.agrees, reconciled_triple h]

/-- Persisting writes the version file and the header, making directories on their ways,
and changes nothing else. -/
theorem persist_within (hv : d.NoLinks (d.wayOf c.store.path)) (hh : d.NoLinks (d.wayOf c.header))
    (h : (c.persist res).run d = (.ok (), d')) :
    Within [d.placeOf c.store.path, d.placeOf c.header]
      (d.wayOf c.store.path ++ d.wayOf c.header) d d' := by
  obtain ⟨hchanged, hsame⟩ := persist_ok h
  cases hch : res.changed
  · obtain rfl := hsame hch
    exact Within.refl _ _ _
  · obtain ⟨d1, hsave, hproject⟩ := hchanged hch
    have hw1 := writeFile_within hv hsave
    have hw2 := writeFile_within (hw1.noLinks_wayOf hh) hproject
    rw [placeOf_of_cwd hw1.cwd, wayOf_of_cwd hw1.cwd] at hw2
    exact (hw1.trans hw2).mono (by simp) (List.Subset.refl _)

/-- The main object's path leads without links to a place apart from the version file and
the header, whose ways have no links either. -/
structure Reconciler.ObjectApart (c : Reconciler) (d : Disk) : Prop where
  clearVersion : d.NoLinks (d.wayOf c.store.path)
  clearHeader : d.NoLinks (d.wayOf c.header)
  clearObject : d.NoLinks (d.wayOf c.mainObject)
  versionObject : d.Apart c.store.path c.mainObject
  headerObject : d.Apart c.header c.mainObject

/-- Up to the removal, a version step only writes the version file and the header and
makes directories on their ways. -/
theorem before_removal_within {b : Bool} (hclearV : d.NoLinks (d.wayOf c.store.path))
    (hclearH : d.NoLinks (d.wayOf c.header)) (hload : c.store.load.run d = (.ok r0, d1))
    (hboot : (bootstrap c.header r0).run d1 = (.ok b, d2))
    (hpersist : (c.persist res).run d2 = (.ok (), d3)) :
    Within [d.placeOf c.store.path, d.placeOf c.header]
      (d.wayOf c.store.path ++ d.wayOf c.header) d d3 := by
  obtain ⟨-, hw1, -⟩ := load_effect hclearV hload
  obtain ⟨-, hw2, -⟩ := bootstrap_effect (hw1.noLinks_wayOf hclearH) hboot
  rw [placeOf_of_cwd hw1.cwd, wayOf_of_cwd hw1.cwd] at hw2
  have hw12 := hw1.trans hw2
  have hw3 := persist_within (hw12.noLinks_wayOf hclearV)
    (hw12.noLinks_wayOf hclearH) hpersist
  rw [placeOf_of_cwd hw12.cwd, placeOf_of_cwd hw12.cwd, wayOf_of_cwd hw12.cwd,
    wayOf_of_cwd hw12.cwd] at hw3
  exact (hw12.trans hw3).mono (by intro q; simp; tauto) (by intro q; simp; tauto)

/-- Removing a stale main object: it is removed exactly when the manifest disagrees with the
record and something other than a directory stands at its path; its place is then empty,
and otherwise nothing changed. -/
theorem recompileIfStale_forced {b : Bool} {r : Record}
    (hclear : d.NoLinks (d.wayOf c.mainObject)) (h : (c.recompileIfStale m r).run d = (.ok b, d')) :
    (b = true ↔ m.agrees r = some false ∧ d.HoldsLeaf c.mainObject) ∧
    (b = true → d'.node? (d.placeOf c.mainObject) = none) ∧ (b = false → d' = d) := by
  obtain ⟨hstale, hfresh⟩ := recompileIfStale_ok h
  by_cases hm : m.agrees r = some false
  · rcases forceRecompile_ok (hstale hm) with ⟨rfl, hrm⟩ | ⟨rfl, hnf, rfl⟩
    · exact ⟨iff_of_true rfl ⟨hm, holdsLeaf_of_removeFile hrm⟩,
        fun _ => (removeFile_within hclear hrm).2.1, (fun hb => by cases hb)⟩
    · exact ⟨iff_of_false (by simp) fun ⟨_, hl⟩ => removeFile_ne_notFound hl hnf,
        (fun hb => by cases hb), fun _ => rfl⟩
  · obtain ⟨rfl, rfl⟩ := hfresh hm
    exact ⟨iff_of_false (by simp) fun ⟨hm', _⟩ => hm hm', (fun hb => by cases hb), fun _ => rfl⟩

/-- A version step that succeeded, with a main-object path that leads without links to a
place apart from the version file and the header and never goes up, on a disk that is a
tree, forced a recompile exactly when the manifest it read was malformed and something other
than a directory stood at the main object's path before the step; that place is then empty.
A well-formed manifest version is the reconciled record's triple, so with an absent or a
well-formed manifest nothing is forced and the main object's place holds what it held. -/
theorem recompile_forced_iff {o : Outcome} (hsep : c.ObjectApart d) (htree : d.Tree)
    (hdirect : Direct c.mainObject) (h : (c.run t).run d = (.ok o, d')) :
    (o.recompileForced = true ↔
      (∃ raw reason, c.manifestSeen d = .malformed raw reason) ∧ d.HoldsLeaf c.mainObject) ∧
    (o.recompileForced = true → d'.node? (d.placeOf c.mainObject) = none) ∧
    (∀ tr, c.manifestSeen d = .version tr → o.reconciliation.record.triple = tr) ∧
    ((∀ raw reason, c.manifestSeen d ≠ .malformed raw reason) →
      o.recompileForced = false ∧
        d'.node? (d.placeOf c.mainObject) = d.node? (d.placeOf c.mainObject)) := by
  obtain ⟨r0, d1, d2, d3, hload, hboot, hrec, -, hpersist, hstale⟩ := run_ok h
  rw [manifestSeen_eq hload hboot]
  have hw := before_removal_within hsep.clearVersion hsep.clearHeader hload hboot hpersist
  obtain ⟨hvo, hv_wo, ho_wv⟩ := hsep.versionObject
  obtain ⟨hho, hh_wo, ho_wh⟩ := hsep.headerObject
  have hspot : d.placeOf c.mainObject ∉ [d.placeOf c.store.path, d.placeOf c.header] := by
    simp [Ne.symm hvo, Ne.symm hho]
  have hplace : d.placeOf c.mainObject ∉ d.wayOf c.store.path ++ d.wayOf c.header := by
    simp [ho_wv, ho_wh]
  have hway : ∀ q ∈ d.wayOf c.mainObject, q ∉ [d.placeOf c.store.path, d.placeOf c.header] := by
    intro q hq hmem
    simp only [List.mem_cons, List.not_mem_nil, or_false] at hmem
    rcases hmem with rfl | rfl
    exacts [hv_wo hq, hh_wo hq]
  have hleaf := holdsLeaf_stable htree hdirect hsep.clearObject hw hway hspot hplace
  have hnode : d3.node? (d.placeOf c.mainObject) = d.node? (d.placeOf c.mainObject) :=
    hw.node?_eq hspot hplace
  obtain ⟨hforced, hgone, hkept⟩ :=
    recompileIfStale_forced (hw.noLinks_wayOf hsep.clearObject) hstale
  rw [placeOf_of_cwd hw.cwd] at hgone
  have hagree := agrees_reconciled_false hrec
  refine ⟨by rw [hforced, hagree, hleaf], hgone, fun tr htr => reconciled_triple (htr ▸ hrec),
    fun hnm => ?_⟩
  have hfresh : o.recompileForced = false := by
    cases hb : o.recompileForced
    · rfl
    · obtain ⟨raw, reason, hmal⟩ := hagree.1 (hforced.1 hb).1
      exact absurd hmal (hnm raw reason)
  exact ⟨hfresh, by rw [hkept hfresh, hnode]⟩

theorem Reconciler.Layout.objectApart (h : c.Layout d) : c.ObjectApart d :=
  ⟨h.clearVersion, h.clearHeader, h.clearObject, h.versionObject, h.headerObject⟩

/-- A disk holding a manifest that is no JSON text and a main object. -/
def objectDisk : Disk :=
  ⟨[(["m.json"], .file "x".toUTF8.toList), (["o.o"], .file [0x7F])], []⟩

def objectLoaded : Disk :=
  ⟨objectDisk.entries ++ [(["v.json"], .file (Record.initial "fw").renderJson.toUTF8.toList)], []⟩

def objectBooted : Disk :=
  ⟨objectLoaded.entries ++
    [(["h.h"], .file (renderHeader (Record.initial "fw")).toUTF8.toList)], []⟩

/-- The disk a debug run leaves: the manifest, the initial record and its header, and no
main object. -/
def objectEnd : Disk :=
  ⟨[(["m.json"], .file "x".toUTF8.toList),
    (["v.json"], .file (Record.initial "fw").renderJson.toUTF8.toList),
    (["h.h"], .file (renderHeader (Record.initial "fw")).toUTF8.toList)], []⟩

theorem object_load : manifestReconciler.store.load.run objectDisk =
    (.ok (Record.initial "fw"), objectLoaded) := by
  refine load_absent ?_ (writeFile_of (makeParents_top parent_v) ?_)
  · simp +decide [Disk.present, Disk.stat, Disk.locate, Disk.locateWith, objectDisk,
      manifestReconciler, Disk.walk, Disk.node?, pieces_v, Disk.wantsDir, Except.bind, Place.node]
  · simp +decide [manifestReconciler, Disk.writeText, Disk.writeBytes, Disk.writePlace,
      Disk.locate, Disk.locateWith, objectDisk, objectLoaded, Disk.walk, Disk.node?, pieces_v,
      Disk.wantsDir, Disk.put, Except.map]

theorem object_boot :
    (bootstrap manifestReconciler.header (Record.initial "fw")).run objectLoaded =
      (.ok true, objectBooted) := by
  refine bootstrap_absent ?_ (writeFile_of (makeParents_top parent_h) ?_)
  · simp +decide [manifestReconciler, Disk.isFile, Disk.stat, Disk.locate, Disk.locateWith,
      objectLoaded, objectDisk, Disk.walk, Disk.node?, pieces_h, Disk.wantsDir, Except.bind,
      Place.node]
  · simp +decide [manifestReconciler, Disk.writeText, Disk.writeBytes, Disk.writePlace,
      Disk.locate, Disk.locateWith, objectLoaded, objectBooted, objectDisk, Disk.walk, Disk.node?,
      pieces_h, Disk.wantsDir, Disk.put, Except.map]

theorem object_manifest : readManifest objectBooted manifestReconciler.manifest =
    .malformed none "invalid JSON: expected value at line 1 column 1" := by
  have hloc : objectBooted.locate true "m.json" =
      .ok (.found ["m.json"] (.file "x".toUTF8.toList) false) := by
    simp +decide [Disk.locate, Disk.locateWith, objectBooted, objectLoaded, objectDisk,
      Disk.walk, Disk.node?, pieces_m, Disk.wantsDir]
  have htext : Lookup.ofText "m.json" "x" =
      .malformed none "invalid JSON: expected value at line 1 column 1" := by
    decide +kernel
  simp only [manifestReconciler, readManifest, readText_found hloc, htext]

theorem object_remove : (manifestReconciler.recompileIfStale
    (.malformed none "invalid JSON: expected value at line 1 column 1") (Record.initial "fw")).run
      objectBooted = (.ok true, objectEnd) := by
  have hrm : objectBooted.removeFile "o.o" = .ok objectEnd := by
    simp +decide [Disk.removeFile, Disk.locateLast, Disk.locateWith, objectBooted, objectLoaded,
      objectDisk, objectEnd, Disk.walk, Disk.node?, pieces_o, Disk.erase]
  simp [Reconciler.recompileIfStale, Lookup.agrees, forceRecompile, manifestReconciler, run_bind,
    hrm]
  rfl

/-- A debug run that reads a malformed manifest removes the main object. -/
theorem object_run : (manifestReconciler.run ⟨"esp_debug"⟩).run objectDisk =
    (.ok ⟨⟨Record.initial "fw", false, false, true⟩, true, false, true⟩, objectEnd) := by
  have hrec : reconcile (Record.initial "fw") ⟨"esp_debug"⟩
      (readManifest objectBooted manifestReconciler.manifest) =
        .ok ⟨Record.initial "fw", false, false, true⟩ := by
    rw [object_manifest]
    decide +kernel
  exact run_of_steps object_load object_boot hrec rfl (object_manifest ▸ object_remove)

theorem object_no_links : ∀ q t, objectDisk.node? q ≠ some (.link t) :=
  node?_ne_link (by simp [objectDisk])

theorem object_layout : manifestReconciler.Layout objectDisk :=
  (layout_blank rfl rfl rfl).of_cwd rfl object_no_links

theorem object_tree : objectDisk.Tree :=
  tree_of_top (by simp [objectDisk])

/-- With a manifest that is no JSON text and a main object on the disk, a debug run forces a
recompile and leaves the main object's place empty. -/
theorem malformed_manifest_forces_recompile :
    ∃ o d', (manifestReconciler.run ⟨"esp_debug"⟩).run objectDisk = (.ok o, d') ∧
      o.recompileForced = true ∧
      (o.recompileForced = true ↔
        (∃ raw reason, manifestReconciler.manifestSeen objectDisk = .malformed raw reason) ∧
          objectDisk.HoldsLeaf manifestReconciler.mainObject) ∧
      (o.recompileForced = true →
        d'.node? (objectDisk.placeOf manifestReconciler.mainObject) = none) ∧
      (∀ tr, manifestReconciler.manifestSeen objectDisk = .version tr →
        o.reconciliation.record.triple = tr) ∧
      ((∀ raw reason, manifestReconciler.manifestSeen objectDisk ≠ .malformed raw reason) →
        o.recompileForced = false ∧
          d'.node? (objectDisk.placeOf manifestReconciler.mainObject) =
            objectDisk.node? (objectDisk.placeOf manifestReconciler.mainObject)) :=
  ⟨_, _, object_run, rfl, recompile_forced_iff object_layout.objectApart object_tree
    (by simp [Direct, manifestReconciler, pieces_o]) object_run⟩

/-- A debug reconciler whose main object is its own version file, with a manifest. -/
def staleReconciler : Reconciler := ⟨⟨"v.json", "fw"⟩, "h.h", some "m.json", "v.json"⟩

/-- A disk holding only a manifest that is no JSON text. -/
def manifestDisk : Disk := ⟨[(["m.json"], .file "x".toUTF8.toList)], []⟩

/-- The manifest disk with the initial record saved. -/
def staleLoaded : Disk :=
  ⟨manifestDisk.entries ++ [(["v.json"], .file (Record.initial "fw").renderJson.toUTF8.toList)], []⟩

/-- The disk after the header was bootstrapped too. -/
def staleBooted : Disk :=
  ⟨staleLoaded.entries ++ [(["h.h"], .file (renderHeader (Record.initial "fw")).toUTF8.toList)], []⟩

/-- The disk the run leaves: the manifest and the header, the version file gone. -/
def staleEnd : Disk :=
  ⟨[(["m.json"], .file "x".toUTF8.toList),
    (["h.h"], .file (renderHeader (Record.initial "fw")).toUTF8.toList)], []⟩

theorem stale_load : staleReconciler.store.load.run manifestDisk =
    (.ok (Record.initial "fw"), staleLoaded) := by
  refine load_absent ?_ (writeFile_of (makeParents_top parent_v) ?_)
  · simp +decide [Disk.present, Disk.stat, Disk.locate, Disk.locateWith, manifestDisk,
      staleReconciler, Disk.walk, Disk.node?, pieces_v, Disk.wantsDir, Except.bind, Place.node]
  · simp +decide [staleReconciler, Disk.writeText, Disk.writeBytes, Disk.writePlace,
      Disk.locate, Disk.locateWith, manifestDisk, staleLoaded, Disk.walk, Disk.node?, pieces_v,
      Disk.wantsDir, Disk.put, Except.map]

theorem stale_boot : (bootstrap staleReconciler.header (Record.initial "fw")).run staleLoaded =
    (.ok true, staleBooted) := by
  refine bootstrap_absent ?_ (writeFile_of (makeParents_top parent_h) ?_)
  · simp +decide [staleReconciler, Disk.isFile, Disk.stat, Disk.locate, Disk.locateWith,
      staleLoaded, manifestDisk, Disk.walk, Disk.node?, pieces_h, Disk.wantsDir, Except.bind,
      Place.node]
  · simp +decide [staleReconciler, Disk.writeText, Disk.writeBytes, Disk.writePlace,
      Disk.locate, Disk.locateWith, staleLoaded, staleBooted, manifestDisk, Disk.walk, Disk.node?,
      pieces_h, Disk.wantsDir, Disk.put, Except.map]

theorem stale_manifest : readManifest staleBooted staleReconciler.manifest =
    .malformed none "invalid JSON: expected value at line 1 column 1" := by
  have hloc : staleBooted.locate true "m.json" =
      .ok (.found ["m.json"] (.file "x".toUTF8.toList) false) := by
    simp +decide [Disk.locate, Disk.locateWith, staleBooted, staleLoaded, manifestDisk, Disk.walk,
      Disk.node?, pieces_m, Disk.wantsDir]
  have htext : Lookup.ofText "m.json" "x" =
      .malformed none "invalid JSON: expected value at line 1 column 1" := by
    decide +kernel
  simp only [staleReconciler, readManifest, readText_found hloc, htext]

theorem stale_remove : (staleReconciler.recompileIfStale
    (.malformed none "invalid JSON: expected value at line 1 column 1") (Record.initial "fw")).run
      staleBooted = (.ok true, staleEnd) := by
  have hrm : staleBooted.removeFile "v.json" = .ok staleEnd := by
    simp +decide [Disk.removeFile, Disk.locateLast, Disk.locateWith, staleBooted, staleLoaded,
      manifestDisk, staleEnd, Disk.walk, Disk.node?, pieces_v, Disk.erase]
  simp [Reconciler.recompileIfStale, Lookup.agrees, forceRecompile, staleReconciler, run_bind,
    hrm]
  rfl

theorem stale_run : (staleReconciler.run ⟨"esp_debug"⟩).run manifestDisk =
    (.ok ⟨⟨Record.initial "fw", false, false, true⟩, true, false, true⟩, staleEnd) := by
  have hrec : reconcile (Record.initial "fw") ⟨"esp_debug"⟩
      (readManifest staleBooted staleReconciler.manifest) =
        .ok ⟨Record.initial "fw", false, false, true⟩ := by
    rw [stale_manifest]
    decide +kernel
  exact run_of_steps stale_load stale_boot hrec rfl (stale_manifest ▸ stale_remove)

/-- A main-object path that names the version file: nothing stood there before the debug
run, yet with a malformed manifest the run reports a forced recompile, having removed the
version file it had just created. -/
theorem removal_reaches_version_file :
    (staleReconciler.run ⟨"esp_debug"⟩).run manifestDisk =
      (.ok ⟨⟨Record.initial "fw", false, false, true⟩, true, false, true⟩, staleEnd) ∧
    ¬manifestDisk.HoldsLeaf staleReconciler.mainObject ∧ staleEnd.node? ["v.json"] = none := by
  refine ⟨stale_run, ?_, by decide⟩
  rintro ⟨p, n, sl, hloc, -⟩
  simp +decide [staleReconciler, Disk.locateLast, Disk.locateWith, manifestDisk, Disk.walk,
    Disk.node?, pieces_v] at hloc

end FirmwareStamp.Version
