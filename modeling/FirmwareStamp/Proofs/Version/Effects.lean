import FirmwareStamp.Proofs.Disk.Tree
import FirmwareStamp.Proofs.Version.Steps
import FirmwareStamp.Proofs.Version.Reconcile

/-!
What a version step that succeeded did to the disk. Its three paths, the version file,
the header and the main object, are taken to lead through no link to places apart from
each other. Then the version file holds the reconciled record whenever it was written,
the header holds that record's header whenever it was written, the main object is gone
exactly when it was removed, and nothing else changed but directories made on the ways
of the two written files. Whether the header was bootstrapped is read on the disk left by
the load, which may have made directories on the header's way; on a disk that is a tree,
with a header path that never goes up, that is the same as reading it on the disk before.
-/

namespace FirmwareStamp.Disk

/-- Two path texts that lead to different places, neither passed on the way to the other. -/
def Apart (d : Disk) (s t : String) : Prop :=
  d.placeOf s ≠ d.placeOf t ∧ d.placeOf s ∉ d.wayOf t ∧ d.placeOf t ∉ d.wayOf s

theorem Apart.of_cwd {d d' : Disk} {s t : String} (h : d'.cwd = d.cwd) (hap : d.Apart s t) :
    d'.Apart s t := by
  simpa only [Apart, placeOf_of_cwd h, wayOf_of_cwd h] using hap

end FirmwareStamp.Disk

namespace FirmwareStamp.Version

open Disk FirmwareStamp.Action

variable {d d' : Disk}

/-- The paths a reconciler writes or removes, on a disk: no link on their ways, and the
places they lead to apart from each other. -/
structure Reconciler.Layout (c : Reconciler) (d : Disk) : Prop where
  clearVersion : d.NoLinks (d.wayOf c.store.path)
  clearHeader : d.NoLinks (d.wayOf c.header)
  clearObject : d.NoLinks (d.wayOf c.mainObject)
  versionHeader : d.Apart c.store.path c.header
  versionObject : d.Apart c.store.path c.mainObject
  headerObject : d.Apart c.header c.mainObject

/-- A change that keeps the working directory and makes no link keeps the layout. -/
theorem Reconciler.Layout.within {c : Reconciler} {spots ways : List (List String)}
    (hlay : c.Layout d) (hw : Within spots ways d d') : c.Layout d' where
  clearVersion := hw.noLinks_wayOf hlay.clearVersion
  clearHeader := hw.noLinks_wayOf hlay.clearHeader
  clearObject := hw.noLinks_wayOf hlay.clearObject
  versionHeader := hlay.versionHeader.of_cwd hw.cwd
  versionObject := hlay.versionObject.of_cwd hw.cwd
  headerObject := hlay.headerObject.of_cwd hw.cwd

/-- The layout holds on any disk with the same working directory and no link anywhere. -/
theorem Reconciler.Layout.of_cwd {c : Reconciler} (hlay : c.Layout d) (hcwd : d'.cwd = d.cwd)
    (hlinks : ∀ q t, d'.node? q ≠ some (.link t)) : c.Layout d' :=
  ⟨fun q _ => hlinks q, fun q _ => hlinks q, fun q _ => hlinks q,
    hlay.versionHeader.of_cwd hcwd, hlay.versionObject.of_cwd hcwd,
    hlay.headerObject.of_cwd hcwd⟩

/-- The record a store holds on a disk: the record of its file, or the initial record when
no file is there. -/
def Store.Loaded (s : Store) (d : Disk) (r : Record) : Prop :=
  (d.present s.path = false ∧ r = Record.initial s.defaultName) ∨
  (d.present s.path = true ∧ ∃ text, d.readText s.path = .ok text ∧ Record.parseJson text = .ok r)

/-- Loading gives the record the store holds, and writes the initial record where no file
was. -/
theorem load_effect {s : Store} {r : Record} (hclear : d.NoLinks (d.wayOf s.path))
    (h : s.load.run d = (.ok r, d')) :
    s.Loaded d r ∧ Within [d.placeOf s.path] (d.wayOf s.path) d d' ∧
    d'.node? (d.placeOf s.path) =
      if d.present s.path then d.node? (d.placeOf s.path)
      else some (.file r.renderJson.toByteArray.toList) := by
  rcases load_ok h with ⟨hp, rfl, text, ht, hr⟩ | ⟨hp, rfl, hsave⟩
  · exact ⟨Or.inr ⟨hp, text, ht, hr⟩, Within.refl _ _ _, by simp [hp]⟩
  · refine ⟨Or.inl ⟨hp, rfl⟩, writeFile_within hclear hsave, ?_⟩
    simp [hp, writeFile_node hclear hsave]

/-- Bootstrapping writes the header exactly when no regular file is at its path. -/
theorem bootstrap_effect {path : String} {r : Record} {b : Bool}
    (hclear : d.NoLinks (d.wayOf path)) (h : (bootstrap path r).run d = (.ok b, d')) :
    (b = true ↔ d.isFile path = false) ∧ Within [d.placeOf path] (d.wayOf path) d d' ∧
    d'.node? (d.placeOf path) =
      if b then some (.file (renderHeader r).toByteArray.toList) else d.node? (d.placeOf path) := by
  rcases bootstrap_ok h with ⟨hf, rfl, rfl⟩ | ⟨hf, rfl, hproject⟩
  · exact ⟨by simp [hf], Within.refl _ _ _, by simp⟩
  · exact ⟨by simp [hf], writeFile_within hclear hproject, by simp [writeFile_node hclear hproject]⟩

/-- Persisting writes the record and its header when the reconciliation changed it, and
nothing otherwise. -/
theorem persist_effect {c : Reconciler} {res : Reconciliation} (hlay : c.Layout d)
    (h : (c.persist res).run d = (.ok (), d')) :
    Within [d.placeOf c.store.path, d.placeOf c.header]
      (d.wayOf c.store.path ++ d.wayOf c.header) d d' ∧
    d'.node? (d.placeOf c.store.path) =
      (if res.changed then some (.file res.record.renderJson.toByteArray.toList)
      else d.node? (d.placeOf c.store.path)) ∧
    d'.node? (d.placeOf c.header) =
      (if res.changed then some (.file (renderHeader res.record).toByteArray.toList)
      else d.node? (d.placeOf c.header)) := by
  obtain ⟨hchanged, hsame⟩ := persist_ok h
  cases hch : res.changed
  · obtain rfl := hsame hch
    exact ⟨Within.refl _ _ _, by simp, by simp⟩
  · obtain ⟨d1, hsave, hproject⟩ := hchanged hch
    have hw1 := writeFile_within hlay.clearVersion hsave
    have hlay1 := hlay.within hw1
    have hw2 := writeFile_within hlay1.clearHeader hproject
    have hh2 := writeFile_node hlay1.clearHeader hproject
    rw [placeOf_of_cwd hw1.cwd, wayOf_of_cwd hw1.cwd] at hw2
    rw [placeOf_of_cwd hw1.cwd] at hh2
    have hap := hlay.versionHeader
    refine ⟨(hw1.trans hw2).mono (by simp) (List.Subset.refl _), ?_, by simpa using hh2⟩
    rw [if_pos rfl, hw2.node?_eq (by simpa using hap.1) hap.2.1,
      writeFile_node hlay.clearVersion hsave]

/-- Removing a stale main object: the object is gone exactly when it was removed, and was
there then. -/
theorem recompileIfStale_effect {c : Reconciler} {m : Lookup} {r : Record} {b : Bool}
    (hclear : d.NoLinks (d.wayOf c.mainObject)) (h : (c.recompileIfStale m r).run d = (.ok b, d')) :
    Within [d.placeOf c.mainObject] [] d d' ∧
    (b = true → d.node? (d.placeOf c.mainObject) ≠ none) ∧
    d'.node? (d.placeOf c.mainObject) = if b then none else d.node? (d.placeOf c.mainObject) := by
  obtain ⟨hstale, hfresh⟩ := recompileIfStale_ok h
  by_cases hm : m.agrees r = some false
  · rcases forceRecompile_ok (hstale hm) with ⟨rfl, hrm⟩ | ⟨rfl, -, rfl⟩
    · obtain ⟨hw, hnone, n, hn, -⟩ := removeFile_within hclear hrm
      exact ⟨hw, fun _ => by simp [hn], by simp [hnone]⟩
    · exact ⟨Within.refl _ _ _, (fun hb => by cases hb), by simp⟩
  · obtain ⟨rfl, rfl⟩ := hfresh hm
    exact ⟨Within.refl _ _ _, (fun hb => by cases hb), by simp⟩

/-- What a version step that succeeded with outcome `o` did, taking the disk from `d` to
`d'`. The record was persisted exactly when it differs from the one loaded. The version file
holds the record where the load created it or the record was persisted, and is as it was
otherwise. The header was bootstrapped exactly when no regular file was at its path, and
holds the record's header where it was written. The main object is gone exactly when
recompiling was forced, and was there then. Off these three places only directories were
made, on the ways of the two files written. -/
structure Reconciler.Effects (c : Reconciler) (d : Disk) (o : Outcome) (d' : Disk) : Prop where
  loaded : ∃ r0, c.store.Loaded d r0 ∧ (o.persisted = true ↔ o.reconciliation.record ≠ r0)
  version : d'.node? (d.placeOf c.store.path) =
    if d.present c.store.path = false ∨ o.persisted = true then
      some (.file o.reconciliation.record.renderJson.toByteArray.toList)
    else d.node? (d.placeOf c.store.path)
  bootstrapped : o.headerBootstrapped = true ↔ d.isFile c.header = false
  header : d'.node? (d.placeOf c.header) =
    if o.persisted = true ∨ o.headerBootstrapped = true then
      some (.file (renderHeader o.reconciliation.record).toByteArray.toList)
    else d.node? (d.placeOf c.header)
  removed : o.recompileForced = true → d.node? (d.placeOf c.mainObject) ≠ none
  object : d'.node? (d.placeOf c.mainObject) =
    if o.recompileForced = true then none else d.node? (d.placeOf c.mainObject)
  frame : Within [d.placeOf c.store.path, d.placeOf c.header, d.placeOf c.mainObject]
    (d.wayOf c.store.path ++ d.wayOf c.header) d d'

/-- A version step that succeeded, on a disk that is a tree, with the three paths it writes
or removes apart and a header path that never goes up, had exactly the effects above. -/
theorem run_ok_disk {c : Reconciler} {target : Target} {o : Outcome} (hlay : c.Layout d)
    (htree : d.Tree) (hdirect : Direct c.header) (h : (c.run target).run d = (.ok o, d')) :
    c.Effects d o d' := by
  obtain ⟨r0, d1, d2, d3, hload, hboot, hrec, hpersisted, hpersist, hstale⟩ := run_ok h
  obtain ⟨hloaded, hw1, hv1⟩ := load_effect hlay.clearVersion hload
  have hlay1 := hlay.within hw1
  obtain ⟨hbooted, hw2, hh2⟩ := bootstrap_effect hlay1.clearHeader hboot
  have hlay2 := hlay1.within hw2
  obtain ⟨hw3, hv3, hh3⟩ := persist_effect hlay2 hpersist
  obtain ⟨hw4, hforced, ho4⟩ := recompileIfStale_effect (hlay2.within hw3).clearObject hstale
  have hc1 : d1.cwd = d.cwd := hw1.cwd
  have hc2 : d2.cwd = d.cwd := hw2.cwd.trans hc1
  have hc3 : d3.cwd = d.cwd := hw3.cwd.trans hc2
  simp only [placeOf_of_cwd hc1, wayOf_of_cwd hc1] at hw2 hh2
  simp only [placeOf_of_cwd hc2, wayOf_of_cwd hc2] at hw3 hv3 hh3
  simp only [placeOf_of_cwd hc3] at hw4 hforced ho4
  obtain ⟨hvh, hv_wh, hh_wv⟩ := hlay.versionHeader
  obtain ⟨hvo, hv_wo, ho_wv⟩ := hlay.versionObject
  obtain ⟨hho, hh_wo, ho_wh⟩ := hlay.headerObject
  have hchanged := changed_iff_ne hrec
  have hsame := record_of_unchanged hrec
  have hfile : d1.isFile c.header = d.isFile c.header :=
    isFile_stable htree hdirect hlay.clearHeader hw1
      (fun q hq hv => hv_wh (by simp only [List.mem_singleton] at hv; exact hv ▸ hq))
      (by simpa using Ne.symm hvh) hh_wv
  have hobject : d3.node? (d.placeOf c.mainObject) = d.node? (d.placeOf c.mainObject) := by
    rw [hw3.node?_eq (by simp [Ne.symm hvo, Ne.symm hho]) (by simp [ho_wv, ho_wh]),
      hw2.node?_eq (by simpa using Ne.symm hho) ho_wh,
      hw1.node?_eq (by simpa using Ne.symm hvo) ho_wv]
  refine ⟨⟨r0, hloaded, hpersisted ▸ hchanged⟩, ?_, hfile ▸ hbooted, ?_,
    fun hf => hobject ▸ hforced hf,
    by rw [ho4, hobject], ?_⟩
  · rw [hw4.node?_eq (by simpa using hvo) (by simp), hv3, hw2.node?_eq (by simpa using hvh) hv_wh,
      hv1, hpersisted]
    cases hch : o.reconciliation.changed
    · rw [hsame hch]
      cases d.present c.store.path <;> simp
    · simp
  · rw [hw4.node?_eq (by simpa using hho) (by simp), hh3, hh2,
      hw1.node?_eq (by simpa using Ne.symm hvh) hh_wv, hpersisted]
    cases hch : o.reconciliation.changed
    · rw [hsame hch]
      cases o.headerBootstrapped <;> simp
    · simp
  · exact (((hw1.trans hw2).trans hw3).trans hw4).mono (by intro q; simp; grind)
      (by intro q; simp; grind)

/-- Three plain names in the working directory, and no manifest. -/
def plainReconciler : Reconciler := ⟨⟨"v.json", "fw"⟩, "h.h", none, "o.o"⟩

/-- The plain names with a manifest `m.json` beside them. -/
def manifestReconciler : Reconciler := ⟨⟨"v.json", "fw"⟩, "h.h", some "m.json", "o.o"⟩

/-- A disk holding nothing but its root, which is the working directory. -/
def blankDisk : Disk := ⟨[], []⟩

/-- The initial record counted once. -/
def plainRecord : Record := { Record.initial "fw" with build := 1 }

theorem pieces_v : pieces "v.json" = ["v.json"] := by decide
theorem pieces_h : pieces "h.h" = ["h.h"] := by decide
theorem parent_v : Path.parent? "v.json" = some "" := by decide
theorem parent_h : Path.parent? "h.h" = some "" := by decide
theorem pieces_m : pieces "m.json" = ["m.json"] := by decide
theorem pieces_o : pieces "o.o" = ["o.o"] := by decide

theorem plain_load : plainReconciler.store.load.run blankDisk =
    (.ok (Record.initial "fw"),
      ⟨[(["v.json"], .file (Record.initial "fw").renderJson.toUTF8.toList)], []⟩) := by
  refine load_absent ?_ (writeFile_of (makeParents_top parent_v) ?_)
  · simp +decide [Disk.present, Disk.stat, Disk.locate, Disk.locateWith, blankDisk,
      plainReconciler, Disk.walk, Disk.node?, pieces_v, Disk.wantsDir, Except.bind, Place.node]
  · simp +decide [plainReconciler, Disk.writeText, Disk.writeBytes, Disk.writePlace,
      Disk.locate, Disk.locateWith, blankDisk, Disk.walk, Disk.node?, pieces_v, Disk.wantsDir,
      Disk.put, Except.map]

theorem plain_boot : (bootstrap plainReconciler.header (Record.initial "fw")).run
    ⟨[(["v.json"], .file (Record.initial "fw").renderJson.toUTF8.toList)], []⟩ =
    (.ok true, ⟨[(["v.json"], .file (Record.initial "fw").renderJson.toUTF8.toList),
      (["h.h"], .file (renderHeader (Record.initial "fw")).toUTF8.toList)], []⟩) := by
  refine bootstrap_absent ?_ (writeFile_of (makeParents_top parent_h) ?_)
  · simp +decide [plainReconciler, Disk.isFile, Disk.stat, Disk.locate, Disk.locateWith,
      Disk.walk, Disk.node?, pieces_h, Disk.wantsDir, Except.bind, Place.node]
  · simp +decide [plainReconciler, Disk.writeText, Disk.writeBytes, Disk.writePlace,
      Disk.locate, Disk.locateWith, Disk.walk, Disk.node?, pieces_h, Disk.wantsDir, Disk.put,
      Except.map]

theorem plain_persist : (plainReconciler.persist ⟨plainRecord, false, true, false⟩).run
    ⟨[(["v.json"], .file (Record.initial "fw").renderJson.toUTF8.toList),
      (["h.h"], .file (renderHeader (Record.initial "fw")).toUTF8.toList)], []⟩ =
    (.ok (), ⟨[(["v.json"], .file plainRecord.renderJson.toUTF8.toList),
      (["h.h"], .file (renderHeader plainRecord).toUTF8.toList)], []⟩) := by
  have hsave : (plainReconciler.store.save plainRecord).run
      ⟨[(["v.json"], .file (Record.initial "fw").renderJson.toUTF8.toList),
        (["h.h"], .file (renderHeader (Record.initial "fw")).toUTF8.toList)], []⟩ =
      (.ok (), ⟨[(["v.json"], .file plainRecord.renderJson.toUTF8.toList),
        (["h.h"], .file (renderHeader (Record.initial "fw")).toUTF8.toList)], []⟩) := by
    refine writeFile_of (makeParents_top parent_v) ?_
    simp +decide [plainReconciler, Disk.writeText, Disk.writeBytes, Disk.writePlace, Disk.locate,
      Disk.locateWith, Disk.walk, Disk.node?, pieces_v, Disk.wantsDir, Disk.put, Except.map]
  refine persist_changed rfl hsave (writeFile_of (makeParents_top parent_h) ?_)
  simp +decide [plainReconciler, Disk.writeText, Disk.writeBytes, Disk.writePlace, Disk.locate,
    Disk.locateWith, Disk.walk, Disk.node?, pieces_h, Disk.wantsDir, Disk.put, Except.map]

/-- A release run on a blank disk creates the version file, bootstraps the header, counts
one build and writes both again. -/
theorem plain_run : (plainReconciler.run ⟨"esp"⟩).run blankDisk =
    (.ok ⟨⟨plainRecord, false, true, false⟩, true, true, false⟩,
      ⟨[(["v.json"], .file plainRecord.renderJson.toUTF8.toList),
        (["h.h"], .file (renderHeader plainRecord).toUTF8.toList)], []⟩) := by
  have hrec : reconcile (Record.initial "fw") ⟨"esp"⟩ (readManifest
      ⟨[(["v.json"], .file (Record.initial "fw").renderJson.toUTF8.toList),
        (["h.h"], .file (renderHeader (Record.initial "fw")).toUTF8.toList)], []⟩
      plainReconciler.manifest) = .ok ⟨plainRecord, false, true, false⟩ := by
    simp only [plainReconciler, readManifest]
    decide
  exact run_of_steps plain_load plain_boot hrec plain_persist
    (recompileIfStale_fresh (by simp [plainReconciler, readManifest, Lookup.agrees]))

/-- Any reconciler with the three plain names has its layout on the blank disk. -/
theorem layout_blank {c : Reconciler} (hv : c.store.path = "v.json") (hh : c.header = "h.h")
    (ho : c.mainObject = "o.o") : c.Layout blankDisk := by
  have wv : blankDisk.wayOf "v.json" = [["v.json"]] := by decide
  have wh : blankDisk.wayOf "h.h" = [["h.h"]] := by decide
  have wo : blankDisk.wayOf "o.o" = [["o.o"]] := by decide
  have pv : blankDisk.placeOf "v.json" = ["v.json"] := by decide
  have ph : blankDisk.placeOf "h.h" = ["h.h"] := by decide
  have po : blankDisk.placeOf "o.o" = ["o.o"] := by decide
  refine ⟨?_, ?_, ?_, ?_, ?_, ?_⟩ <;>
    simp only [hv, hh, ho, Disk.NoLinks, Disk.Apart, wv, wh, wo, pv, ph, po] <;>
    simp [Disk.node?, blankDisk]

theorem plain_layout : plainReconciler.Layout blankDisk := layout_blank rfl rfl rfl

theorem blank_tree : blankDisk.Tree := by
  intro p n hp hn
  simp [Disk.node?, blankDisk, hp] at hn

theorem plain_run_effects : ∃ o d', (plainReconciler.run ⟨"esp"⟩).run blankDisk = (.ok o, d') ∧
    plainReconciler.Effects blankDisk o d' :=
  ⟨_, _, plain_run,
    run_ok_disk plain_layout blank_tree (by simp [Direct, plainReconciler, pieces_h]) plain_run⟩

/-- A header path that names the version file through `.`: a different text, and neither is
a directory above the other. -/
def aliasReconciler : Reconciler :=
  ⟨⟨"prog_ver.json", "esp-light"⟩, "./prog_ver.json", none, "main.o"⟩

/-- The initial record of that store counted once. -/
def aliasRecord : Record := { Record.initial "esp-light" with build := 1 }

theorem pieces_version_top : pieces "prog_ver.json" = ["prog_ver.json"] := by decide
theorem pieces_alias : pieces "./prog_ver.json" = [".", "prog_ver.json"] := by decide
theorem parent_version_top : Path.parent? "prog_ver.json" = some "" := by decide
theorem parent_alias : Path.parent? "./prog_ver.json" = some "." := by decide

/-- A release run through those paths on a blank disk: the version file is created, then
counts as the header, and is written with the header last. -/
theorem alias_load : aliasReconciler.store.load.run blankDisk =
    (.ok (Record.initial "esp-light"),
      ⟨[(["prog_ver.json"], .file (Record.initial "esp-light").renderJson.toUTF8.toList)],
        []⟩) := by
  refine load_absent ?_ (writeFile_of (makeParents_top parent_version_top) ?_)
  · simp +decide [Disk.present, Disk.stat, Disk.locate, Disk.locateWith, blankDisk,
      aliasReconciler, Disk.walk, Disk.node?, pieces_version_top, Disk.wantsDir, Except.bind,
      Place.node]
  · simp +decide [aliasReconciler, Disk.writeText, Disk.writeBytes, Disk.writePlace,
      Disk.locate, Disk.locateWith, blankDisk, Disk.walk, Disk.node?, pieces_version_top,
      Disk.wantsDir, Disk.put, Except.map]

theorem alias_header_isFile : Disk.isFile
    ⟨[(["prog_ver.json"], .file (Record.initial "esp-light").renderJson.toUTF8.toList)], []⟩
    aliasReconciler.header = true := by
  simp +decide [aliasReconciler, Disk.isFile, Disk.stat, Disk.locate, Disk.locateWith, Disk.walk,
    Disk.node?, pieces_alias, Disk.wantsDir, Except.bind, Place.node]

theorem alias_persist : (aliasReconciler.persist ⟨aliasRecord, false, true, false⟩).run
    ⟨[(["prog_ver.json"], .file (Record.initial "esp-light").renderJson.toUTF8.toList)], []⟩ =
    (.ok (), ⟨[(["prog_ver.json"], .file (renderHeader aliasRecord).toUTF8.toList)], []⟩) := by
  have hsave : (aliasReconciler.store.save aliasRecord).run
      ⟨[(["prog_ver.json"], .file (Record.initial "esp-light").renderJson.toUTF8.toList)], []⟩ =
      (.ok (), ⟨[(["prog_ver.json"], .file aliasRecord.renderJson.toUTF8.toList)], []⟩) := by
    refine writeFile_of (makeParents_top parent_version_top) ?_
    simp +decide [aliasReconciler, Disk.writeText, Disk.writeBytes, Disk.writePlace, Disk.locate,
      Disk.locateWith, Disk.walk, Disk.node?, pieces_version_top, Disk.wantsDir, Disk.put,
      Except.map]
  have hdirs : Disk.createDirAll
      ⟨[(["prog_ver.json"], .file aliasRecord.renderJson.toUTF8.toList)], []⟩ "." =
      (⟨[(["prog_ver.json"], .file aliasRecord.renderJson.toUTF8.toList)], []⟩, none) := by
    have hdot : pieces "." = ["."] := by decide
    simp +decide [Disk.createDirAll, Disk.createDirAll.go, Disk.createDir, Disk.locateLast,
      Disk.locateWith, Disk.walk, hdot, Disk.isDir, Disk.stat, Disk.locate, Disk.wantsDir,
      Except.bind, Place.node]
  refine persist_changed rfl hsave (writeFile_of (makeParents_made parent_alias rfl hdirs) ?_)
  simp +decide [aliasReconciler, Disk.writeText, Disk.writeBytes, Disk.writePlace, Disk.locate,
    Disk.locateWith, Disk.walk, Disk.node?, pieces_alias, Disk.wantsDir, Disk.put, Except.map]

theorem alias_run : (aliasReconciler.run ⟨"esp"⟩).run blankDisk =
    (.ok ⟨⟨aliasRecord, false, true, false⟩, false, true, false⟩,
      ⟨[(["prog_ver.json"], .file (renderHeader aliasRecord).toUTF8.toList)], []⟩) := by
  have hrec : reconcile (Record.initial "esp-light") ⟨"esp"⟩ (readManifest
      ⟨[(["prog_ver.json"], .file (Record.initial "esp-light").renderJson.toUTF8.toList)], []⟩
      aliasReconciler.manifest) = .ok ⟨aliasRecord, false, true, false⟩ := by
    simp only [aliasReconciler, readManifest]
    decide
  exact run_of_steps alias_load (bootstrap_present alias_header_isFile) hrec alias_persist
    (recompileIfStale_fresh (by simp [aliasReconciler, readManifest, Lookup.agrees]))

/-- Two paths that differ as texts, neither a directory above the other, can still lead to
one file: the run persists the record, yet the version file ends holding the header, and
the header counts as there although no file was at its path before the run. -/
theorem aliased_header_overwrites_record :
    (aliasReconciler.run ⟨"esp"⟩).run blankDisk =
      (.ok ⟨⟨aliasRecord, false, true, false⟩, false, true, false⟩,
        ⟨[(["prog_ver.json"], .file (renderHeader aliasRecord).toUTF8.toList)], []⟩) ∧
    blankDisk.present "prog_ver.json" = false ∧ blankDisk.isFile "./prog_ver.json" = false ∧
    renderHeader aliasRecord ≠ aliasRecord.renderJson := by
  refine ⟨alias_run, ?_, ?_, by decide⟩
  · simp +decide [Disk.present, Disk.stat, Disk.locate, Disk.locateWith, blankDisk, Disk.walk,
      Disk.node?, pieces_version_top, Disk.wantsDir, Except.bind, Place.node]
  · simp +decide [Disk.isFile, Disk.stat, Disk.locate, Disk.locateWith, blankDisk, Disk.walk,
      Disk.node?, pieces_alias, Disk.wantsDir, Except.bind, Place.node]

end FirmwareStamp.Version
