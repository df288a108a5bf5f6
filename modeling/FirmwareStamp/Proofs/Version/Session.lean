import FirmwareStamp.Proofs.Version.Effects
import FirmwareStamp.Proofs.Version.RecordText

/-!
Builds one after another. Before each build the world may rewrite the manifest and the
main object, and nothing else; each version step succeeds. A session is read through
where it stands between two builds: the record the store holds, whether the version file
is there, and whether the header is that record's header. One build takes a standing to
the next, with the record the reconciliation gave; so along a whole session the store
holds the record it started from, with the triple of the last manifest version read and
one more build for each release target, and once a build has written the header it is
the header of that record.
-/

namespace FirmwareStamp.Version

open Disk FirmwareStamp.Action

variable {c : Reconciler} {d d' d1 : Disk} {r : Record}

theorem off_single {p : List String} {way : List (List String)} (h : p ∉ way) :
    ∀ q ∈ way, q ∉ [p] := by
  intro q hq hp
  rw [List.mem_singleton] at hp
  exact h (hp ▸ hq)

theorem readText_within {spots ways : List (List String)} {s text : String}
    (hw : Within spots ways d d') (hclear : d.NoLinks (d.wayOf s))
    (hoff : ∀ q ∈ d.wayOf s, q ∉ spots) (h : d.readText s = .ok text) : d'.readText s = .ok text :=
  readText_keep hclear (hw.keepsWay hoff) h

theorem Store.Loaded.unique {s : Store} {r' : Record} (h : s.Loaded d r) (h' : s.Loaded d r') :
    r = r' := by
  rcases h with ⟨hp, rfl⟩ | ⟨hp, text, ht, hr⟩ <;>
    rcases h' with ⟨hp', rfl⟩ | ⟨hp', text', ht', hr'⟩
  · rfl
  · simp [hp] at hp'
  · simp [hp] at hp'
  · rw [ht] at ht'
    cases ht'
    rw [hr] at hr'
    cases hr'
    rfl

theorem Store.Loaded.congr {s : Store} (hcwd : d'.cwd = d.cwd) (hclear : d.NoLinks (d.wayOf s.path))
    (hsame : ∀ q ∈ d.wayOf s.path, d'.node? q = d.node? q) (h : s.Loaded d r) : s.Loaded d' r := by
  unfold Store.Loaded at h ⊢
  rwa [present_congr hcwd hclear hsame, readText_congr hcwd hclear hsame]

/-- A version file that reads back as a record is there, and the store holds that record. -/
theorem Store.loaded_of_readText {s : Store} {text : String} (ht : d.readText s.path = .ok text)
    (hr : Record.parseJson text = .ok r) : d.present s.path = true ∧ s.Loaded d r :=
  have hp := present_of_isFile (isFile_of_readText ht)
  ⟨hp, Or.inr ⟨hp, text, ht, hr⟩⟩

/-- After a load the version file reads back as the record it gave. -/
theorem load_reads {s : Store} (h : s.load.run d = (.ok r, d')) :
    ∃ text, d'.readText s.path = .ok text ∧ Record.parseJson text = .ok r := by
  rcases load_ok h with ⟨-, rfl, hread⟩ | ⟨-, -, hsave⟩
  · exact hread
  · exact ⟨_, writeFile_readText hsave, Json.parseJson_renderJson r⟩

theorem bootstrap_reads {path : String} (h : (bootstrap path r).run d = (.ok true, d')) :
    d'.readText path = .ok (renderHeader r) := by
  rcases bootstrap_ok h with ⟨-, h, -⟩ | ⟨-, -, hproject⟩
  · cases h
  · exact writeFile_readText hproject

/-- A persisted record reads back from the version file, and the header is its header. -/
theorem persist_reads {res : Reconciliation} (hlay : c.Layout d)
    (h : (c.persist res).run d = (.ok (), d')) (hch : res.changed = true) :
    d'.readText c.store.path = .ok res.record.renderJson ∧
    d'.readText c.header = .ok (renderHeader res.record) := by
  obtain ⟨d1, hsave, hproject⟩ := (persist_ok h).1 hch
  have hw1 := writeFile_within hlay.clearVersion hsave
  have hlay1 := hlay.within hw1
  exact ⟨readText_within (writeFile_within hlay1.clearHeader hproject) hlay1.clearVersion
      (off_single hlay1.versionHeader.2.2) (writeFile_readText hsave),
    writeFile_readText hproject⟩

/-- The manifest leads to a place apart from the version file and from the header. -/
def Reconciler.ManifestApart (c : Reconciler) (d : Disk) : Prop :=
  ∀ m ∈ c.manifest, d.Apart c.store.path m ∧ d.Apart c.header m

theorem Reconciler.ManifestApart.of_cwd (h : d'.cwd = d.cwd) (hman : c.ManifestApart d) :
    c.ManifestApart d' :=
  fun m hm => ⟨(hman m hm).1.of_cwd h, (hman m hm).2.of_cwd h⟩

/-- What the world may do between two builds: rewrite the manifest and the main object.
Nothing else changes, no link appears and the working directory stays. -/
def Reconciler.Touch (c : Reconciler) (d d' : Disk) : Prop :=
  Within (d.placeOf c.mainObject :: c.manifest.toList.map d.placeOf) [] d d'

/-- The manifest as a version step on `d` reads it: after loading the version file and
bootstrapping the header. -/
def Reconciler.manifestSeen (c : Reconciler) (d : Disk) : Lookup :=
  readManifest ((c.store.load >>= bootstrap c.header).run d).2 c.manifest

theorem manifestSeen_eq {b : Bool} {d2 : Disk} (hload : c.store.load.run d = (.ok r, d1))
    (hboot : (bootstrap c.header r).run d1 = (.ok b, d2)) :
    c.manifestSeen d = readManifest d2 c.manifest := by
  simp [Reconciler.manifestSeen, run_bind, hload, hboot]

/-- Builds one after another from the disk `d0`, each after the world touched the disk and
each succeeding. The log holds, for every build, its target, the manifest it read and its
outcome. -/
inductive Reconciler.Session (c : Reconciler) (d0 : Disk) :
    List (Target × Lookup × Outcome) → Disk → Prop
  | start : c.Session d0 [] d0
  | build {log : List (Target × Lookup × Outcome)} {d d1 d2 : Disk} {t : Target} {o : Outcome} :
      c.Session d0 log d → c.Touch d d1 → (c.run t).run d1 = (.ok o, d2) →
      c.Session d0 (log ++ [(t, c.manifestSeen d1, o)]) d2

/-- The triple of the last manifest version a session read, or `t0` where it read none. -/
def latestTriple (t0 : Triple) (log : List (Target × Lookup × Outcome)) : Triple :=
  log.foldl (fun t x => x.2.1.triple?.getD t) t0

/-- How many builds of a session were for release targets. -/
def releases (log : List (Target × Lookup × Outcome)) : Nat :=
  log.countP fun x => !x.1.isDebug

/-- Whether a build of a session wrote the header: it persisted or bootstrapped. -/
def headerWritten (log : List (Target × Lookup × Outcome)) : Bool :=
  log.any fun x => x.2.2.persisted || x.2.2.headerBootstrapped

@[simp] theorem latestTriple_snoc (t0 : Triple) (log : List (Target × Lookup × Outcome))
    (x : Target × Lookup × Outcome) :
    latestTriple t0 (log ++ [x]) = x.2.1.triple?.getD (latestTriple t0 log) := by
  simp [latestTriple]

@[simp] theorem releases_snoc (log : List (Target × Lookup × Outcome))
    (x : Target × Lookup × Outcome) :
    releases (log ++ [x]) = releases log + if x.1.isDebug then 0 else 1 := by
  cases h : x.1.isDebug <;> simp [releases, List.countP_append, h]

@[simp] theorem headerWritten_snoc (log : List (Target × Lookup × Outcome))
    (x : Target × Lookup × Outcome) :
    headerWritten (log ++ [x]) =
      (headerWritten log || x.2.2.persisted || x.2.2.headerBootstrapped) := by
  simp [headerWritten, Bool.or_assoc]

/-- Where a session stands between builds, on the disk `d`: the layout holds, the store
holds the record `r`, the version file is there once a build has run, and once a build
has written the header it is the header of `r`. -/
structure Reconciler.Stands (c : Reconciler) (d : Disk) (r : Record) (built wrote : Bool) :
    Prop where
  layout : c.Layout d
  loaded : c.store.Loaded d r
  present : built = true → d.present c.store.path = true
  header : wrote = true → d.readText c.header = .ok (renderHeader r)

/-- The world's touch keeps where a session stands: it changes no place on the ways of the
version file and the header. -/
theorem Reconciler.Stands.touch {b w : Bool} (hman : c.ManifestApart d) (hst : c.Stands d r b w)
    (ht : c.Touch d d1) : c.Stands d1 r b w := by
  have hsame : ∀ s, d.placeOf c.mainObject ∉ d.wayOf s →
      (∀ m ∈ c.manifest, d.placeOf m ∉ d.wayOf s) → ∀ q ∈ d.wayOf s, d1.node? q = d.node? q := by
    intro s hobj hman q hq
    refine ht.node?_eq ?_ List.not_mem_nil
    simp only [List.mem_cons, List.mem_map, Option.mem_toList, not_or, not_exists, not_and]
    exact ⟨fun e => hobj (e ▸ hq), fun m hm e => hman m hm (e ▸ hq)⟩
  have hv := hsame _ hst.layout.versionObject.2.2 fun m hm => (hman m hm).1.2.2
  have hh := hsame _ hst.layout.headerObject.2.2 fun m hm => (hman m hm).2.2.2
  refine ⟨hst.layout.within ht, hst.loaded.congr ht.cwd hst.layout.clearVersion hv,
    fun hb => ?_, fun hw => ?_⟩
  · rw [present_congr ht.cwd hst.layout.clearVersion hv]
    exact hst.present hb
  · rw [readText_congr ht.cwd hst.layout.clearHeader hh]
    exact hst.header hw

/-- One build takes where a session stands to where it stands next: the reconciliation of
the record held with the manifest the build read gives the new record, the version file is
there, and the header is that record's once this build or an earlier one wrote it. -/
theorem Reconciler.Stands.run {b w : Bool} {t : Target} {o : Outcome} (hst : c.Stands d r b w)
    (h : (c.run t).run d = (.ok o, d')) :
    reconcile r t (c.manifestSeen d) = .ok o.reconciliation ∧ d'.cwd = d.cwd ∧
    c.Stands d' o.reconciliation.record true (w || o.persisted || o.headerBootstrapped) := by
  obtain ⟨r1, d1, d2, d3, hload, hboot, hrec, hpersisted, hpersist, hstale⟩ := run_ok h
  obtain ⟨hloaded, hw1, -⟩ := load_effect hst.layout.clearVersion hload
  obtain rfl : r = r1 := (hloaded.unique hst.loaded).symm
  have hlay1 := hst.layout.within hw1
  obtain ⟨hbooted, hw2, -⟩ := bootstrap_effect hlay1.clearHeader hboot
  have hlay2 := hlay1.within hw2
  obtain ⟨hw3, -, -⟩ := persist_effect hlay2 hpersist
  have hlay3 := hlay2.within hw3
  obtain ⟨hw4, -, -⟩ := recompileIfStale_effect hlay3.clearObject hstale
  have hsame : o.reconciliation.changed = false → o.reconciliation.record = r ∧ d3 = d2 :=
    fun hf => ⟨record_of_unchanged hrec hf, (persist_ok hpersist).2 hf⟩
  have hkeep4 : ∀ {s text}, s = c.store.path ∨ s = c.header → d3.readText s = .ok text →
      d'.readText s = .ok text := by
    rintro s text (rfl | rfl) h3
    · exact readText_within hw4 hlay3.clearVersion (off_single hlay3.versionObject.2.2) h3
    · exact readText_within hw4 hlay3.clearHeader (off_single hlay3.headerObject.2.2) h3
  have hversion : ∃ text, d'.readText c.store.path = .ok text ∧
      Record.parseJson text = .ok o.reconciliation.record := by
    cases hch : o.reconciliation.changed
    · obtain ⟨hrec_eq, rfl⟩ := hsame hch
      obtain ⟨text, ht1, hr1⟩ := load_reads hload
      have ht2 := readText_within hw2 hlay1.clearVersion (off_single hlay1.versionHeader.2.2) ht1
      exact ⟨text, hkeep4 (Or.inl rfl) ht2, hrec_eq ▸ hr1⟩
    · exact ⟨_, hkeep4 (Or.inl rfl) (persist_reads hlay2 hpersist hch).1,
        Json.parseJson_renderJson _⟩
  have hheader : (w || o.persisted || o.headerBootstrapped) = true →
      d'.readText c.header = .ok (renderHeader o.reconciliation.record) := by
    intro hwrote
    cases hch : o.reconciliation.changed
    · obtain ⟨hrec_eq, rfl⟩ := hsame hch
      rw [hrec_eq]
      refine hkeep4 (Or.inr rfl) ?_
      cases hb : o.headerBootstrapped <;> rw [hb] at hboot
      · rcases bootstrap_ok hboot with ⟨-, -, rfl⟩ | ⟨-, h, -⟩
        · have hw : w = true := by simpa [hpersisted, hch, hb] using hwrote
          exact readText_within hw1 hst.layout.clearHeader
            (off_single hst.layout.versionHeader.2.1) (hst.header hw)
        · cases h
      · exact bootstrap_reads hboot
    · exact hkeep4 (Or.inr rfl) (persist_reads hlay2 hpersist hch).2
  obtain ⟨text, ht, hr⟩ := hversion
  obtain ⟨hp, hl⟩ := Store.loaded_of_readText ht hr
  exact ⟨manifestSeen_eq hload hboot ▸ hrec, (((hw1.trans hw2).trans hw3).trans hw4).cwd,
    ⟨hlay3.within hw4, hl, fun _ => hp, hheader⟩⟩

/-- Once a build has run, loading gives the record held and writes nothing. -/
theorem Reconciler.Stands.load {w : Bool} (hst : c.Stands d r true w) :
    c.store.load.run d = (.ok r, d) := by
  have hp := hst.present rfl
  obtain ⟨-, text, ht, hr⟩ := hst.loaded.resolve_left fun ⟨hp', _⟩ => by simp [hp] at hp'
  exact load_present hp ht hr

/-- The record a build reconciled: the name stays, the triple is the last one read, and a
release build counts one more. -/
theorem reconcile_record {t : Target} {m : Lookup} {res : Reconciliation} {t0 : Triple}
    {log : List (Target × Lookup × Outcome)} {o : Outcome} (h : reconcile r t m = .ok res)
    (htriple : r.triple = latestTriple t0 log) :
    res.record.name = r.name ∧
    res.record.build.toNat = r.build.toNat + (if t.isDebug then 0 else 1) ∧
    res.record.triple = latestTriple t0 (log ++ [(t, m, o)]) := by
  obtain ⟨hrecord, -, hroom⟩ := reconcile_ok h
  rw [hrecord]
  refine ⟨rfl, ?_, ?_⟩
  · cases hd : t.isDebug
    · simp [toNat_succ_of_ne_max (hroom hd)]
    · simp
  · rw [latestTriple_snoc, ← htriple]
    simp [Record.triple, Lookup.tripleOr]

/-- Along a session, where it stands follows from where it started: the store holds the
record it started from with the latest triple read and one more build for each release,
the version file is there once a build has run, and the header is that record's once a
build has written it. -/
theorem Reconciler.Session.stands {d0 : Disk} {r0 : Record} {log : List (Target × Lookup × Outcome)}
    (hman : c.ManifestApart d0) (h0 : c.Stands d0 r0 false false) (hses : c.Session d0 log d) :
    ∃ r, c.Stands d r (!log.isEmpty) (headerWritten log) ∧ c.ManifestApart d ∧ r.name = r0.name ∧
      r.build.toNat = r0.build.toNat + releases log ∧ r.triple = latestTriple r0.triple log := by
  induction hses with
  | start => exact ⟨r0, h0, hman, rfl, rfl, rfl⟩
  | build _ htouch hrun ih =>
    obtain ⟨r, hst, hman, hname, hbuild, htriple⟩ := ih
    obtain ⟨hrec, hcwd, hst'⟩ := (hst.touch hman htouch).run hrun
    obtain ⟨hname', hbuild', htriple'⟩ := reconcile_record hrec htriple
    refine ⟨_, ?_, hman.of_cwd (hcwd.trans htouch.cwd), hname'.trans hname, ?_, htriple'⟩
    · have hbuilt : ∀ (l : List (Target × Lookup × Outcome)) x, (!(l ++ [x]).isEmpty) = true := by
        intro l x
        cases l <;> rfl
      rw [hbuilt, headerWritten_snoc]
      exact hst'
    · rw [hbuild', hbuild]
      simp only [releases_snoc]
      omega

/-- Along a session of builds from a disk where the version file, the header, the main
object and the manifest lead without links to places apart from each other, the version
file reads back after every build as the record the session started from, with the triple
of the last manifest version read and one more build for each release target; and once a
build has written the header, the header is that record's. -/
theorem session_record {d0 : Disk} {r0 : Record} {log : List (Target × Lookup × Outcome)}
    (hlay : c.Layout d0) (hman : c.ManifestApart d0) (h0 : c.store.Loaded d0 r0)
    (hses : c.Session d0 log d) (hne : log ≠ []) :
    ∃ r, c.store.load.run d = (.ok r, d) ∧ r.name = r0.name ∧
      r.build.toNat = r0.build.toNat + releases log ∧ r.triple = latestTriple r0.triple log ∧
      (headerWritten log = true → d.readText c.header = .ok (renderHeader r)) := by
  obtain ⟨r, hst, -, hname, hbuild, htriple⟩ :=
    hses.stands hman ⟨hlay, h0, (fun h => by cases h), (fun h => by cases h)⟩
  have hbuilt : (!log.isEmpty) = true := by cases log <;> simp_all
  rw [hbuilt] at hst
  exact ⟨r, hst.load, hname, hbuild, htriple, hst.header⟩

theorem readText_found {s text : String} {p : List String}
    (h : d.locate true s = .ok (.found p (.file text.toUTF8.toList) false)) :
    d.readText s = .ok text := by
  simp [Disk.readText, Disk.readBytes, h, Except.bind, Place.node, decodeUtf8_toByteArray]

/-- The disk a release build with the plain names leaves on the blank disk: the record
and its header. -/
def plainEnd : Disk :=
  ⟨[(["v.json"], .file plainRecord.renderJson.toUTF8.toList),
    (["h.h"], .file (renderHeader plainRecord).toUTF8.toList)], []⟩

/-- A manifest of version 1.2.3. -/
def taggedManifest : String := "\x7b\"version\": \"1.2.3\"\x7d"

/-- The record of one release build synced to version 1.2.3. -/
def taggedRecord : Record := ⟨"fw", 1, 2, 3, 1⟩

/-- The disk after that build, with the manifest written beside the record and its header. -/
def taggedDisk : Disk :=
  ⟨plainEnd.entries ++ [(["m.json"], .file taggedManifest.toUTF8.toList)], []⟩

def taggedSaved : Disk :=
  ⟨[(["v.json"], .file taggedRecord.renderJson.toUTF8.toList),
    (["h.h"], .file (renderHeader plainRecord).toUTF8.toList),
    (["m.json"], .file taggedManifest.toUTF8.toList)], []⟩

def taggedEnd : Disk :=
  ⟨[(["v.json"], .file taggedRecord.renderJson.toUTF8.toList),
    (["h.h"], .file (renderHeader taggedRecord).toUTF8.toList),
    (["m.json"], .file taggedManifest.toUTF8.toList)], []⟩

/-- A release build and then a debug build after the manifest was written. -/
def taggedLog : List (Target × Lookup × Outcome) :=
  [(⟨"esp"⟩, .absent, ⟨⟨plainRecord, false, true, false⟩, true, true, false⟩),
    (⟨"esp_debug"⟩, .version ⟨1, 2, 3⟩, ⟨⟨taggedRecord, true, false, true⟩, false, true, false⟩)]

theorem untagged_manifest : manifestReconciler.manifestSeen blankDisk = .absent := by
  rw [manifestSeen_eq (c := manifestReconciler) plain_load plain_boot]
  simp +decide [manifestReconciler, readManifest, Disk.readText, Disk.readBytes, Disk.locate,
    Disk.locateWith, Disk.walk, Disk.node?, pieces_m, Disk.wantsDir, Except.bind]

theorem untagged_run : (manifestReconciler.run ⟨"esp"⟩).run blankDisk =
    (.ok ⟨⟨plainRecord, false, true, false⟩, true, true, false⟩, plainEnd) := by
  have habsent := (manifestSeen_eq (c := manifestReconciler) plain_load plain_boot).symm.trans
    untagged_manifest
  refine run_of_steps (c := manifestReconciler) plain_load plain_boot ?_ plain_persist
    (recompileIfStale_fresh (by rw [habsent]; decide))
  rw [habsent]
  decide

theorem tagged_touch : manifestReconciler.Touch plainEnd taggedDisk := by
  have hput : plainEnd.put ["m.json"] (.file taggedManifest.toUTF8.toList) = taggedDisk := by
    simp [Disk.put, plainEnd, taggedDisk]
  have hplace : plainEnd.placeOf "m.json" = ["m.json"] := by decide
  rw [← hput]
  exact (within_put (by simp) (by simp)).mono (by simp [manifestReconciler, hplace])
    (List.Subset.refl _)

theorem tagged_version_file : taggedDisk.locate true "v.json" =
    .ok (.found ["v.json"] (.file plainRecord.renderJson.toUTF8.toList) false) := by
  simp +decide [Disk.locate, Disk.locateWith, taggedDisk, plainEnd, Disk.walk, Disk.node?,
    pieces_v, Disk.wantsDir]

theorem tagged_load :
    manifestReconciler.store.load.run taggedDisk = (.ok plainRecord, taggedDisk) :=
  load_present (present_of_isFile (isFile_of_readText (readText_found tagged_version_file)))
    (readText_found tagged_version_file) (Json.parseJson_renderJson _)

theorem tagged_header : taggedDisk.isFile manifestReconciler.header = true := by
  simp +decide [manifestReconciler, Disk.isFile, Disk.stat, Disk.locate, Disk.locateWith,
    taggedDisk, plainEnd, Disk.walk, Disk.node?, pieces_h, Disk.wantsDir, Except.bind,
    Place.node]

theorem tagged_manifest :
    readManifest taggedDisk manifestReconciler.manifest = .version ⟨1, 2, 3⟩ := by
  have hloc : taggedDisk.locate true "m.json" =
      .ok (.found ["m.json"] (.file taggedManifest.toUTF8.toList) false) := by
    simp +decide [Disk.locate, Disk.locateWith, taggedDisk, plainEnd, Disk.walk, Disk.node?,
      pieces_m, Disk.wantsDir]
  have htext : Lookup.ofText "m.json" taggedManifest = .version ⟨1, 2, 3⟩ := by
    decide +kernel
  simp only [manifestReconciler, readManifest, readText_found hloc, htext]

theorem tagged_persist : (manifestReconciler.persist ⟨taggedRecord, true, false, true⟩).run
    taggedDisk = (.ok (), taggedEnd) := by
  have hsave : (manifestReconciler.store.save taggedRecord).run taggedDisk =
      (.ok (), taggedSaved) := by
    refine writeFile_of (makeParents_top parent_v) ?_
    simp +decide [manifestReconciler, Disk.writeText, Disk.writeBytes, Disk.writePlace,
      Disk.locate, Disk.locateWith, taggedDisk, plainEnd, taggedSaved, Disk.walk, Disk.node?,
      pieces_v, Disk.wantsDir, Disk.put, Except.map]
  refine persist_changed rfl hsave (writeFile_of (makeParents_top parent_h) ?_)
  simp +decide [manifestReconciler, Disk.writeText, Disk.writeBytes, Disk.writePlace,
    Disk.locate, Disk.locateWith, taggedSaved, taggedEnd, Disk.walk, Disk.node?, pieces_h,
    Disk.wantsDir, Disk.put, Except.map]

/-- A debug build that reads the manifest's version 1.2.3 syncs the record to it and
persists it, counting nothing. -/
theorem tagged_run : (manifestReconciler.run ⟨"esp_debug"⟩).run taggedDisk =
    (.ok ⟨⟨taggedRecord, true, false, true⟩, false, true, false⟩, taggedEnd) := by
  have hrec : reconcile plainRecord ⟨"esp_debug"⟩
      (readManifest taggedDisk manifestReconciler.manifest) =
        .ok ⟨taggedRecord, true, false, true⟩ := by
    rw [tagged_manifest]
    decide +kernel
  exact run_of_steps tagged_load (bootstrap_present tagged_header) hrec tagged_persist
    (recompileIfStale_fresh (by rw [tagged_manifest]; decide))

theorem tagged_session : manifestReconciler.Session blankDisk taggedLog taggedEnd := by
  have hseen : manifestReconciler.manifestSeen taggedDisk = .version ⟨1, 2, 3⟩ :=
    (manifestSeen_eq tagged_load (bootstrap_present tagged_header)).trans tagged_manifest
  have h := (Reconciler.Session.start.build (Within.refl _ _ _) untagged_run).build tagged_touch
    tagged_run
  rwa [untagged_manifest, hseen] at h

theorem manifest_apart_blank : manifestReconciler.ManifestApart blankDisk := by
  intro m hm
  obtain rfl : m = "m.json" := by simpa [manifestReconciler] using hm.symm
  simp only [Disk.Apart, manifestReconciler]
  decide

/-- A release build on the blank disk, the manifest then written with version 1.2.3, and a
debug build: the version file reads back with the manifest's triple, the one count of the
release build, and its header beside it. -/
theorem manifest_version_between_builds :
    manifestReconciler.Session blankDisk taggedLog taggedEnd ∧
    latestTriple (Record.initial "fw").triple taggedLog = ⟨1, 2, 3⟩ ∧ releases taggedLog = 1 ∧
    ∃ r, manifestReconciler.store.load.run taggedEnd = (.ok r, taggedEnd) ∧
      r.name = (Record.initial "fw").name ∧
      r.build.toNat = (Record.initial "fw").build.toNat + releases taggedLog ∧
      r.triple = latestTriple (Record.initial "fw").triple taggedLog ∧
      (headerWritten taggedLog = true →
        taggedEnd.readText manifestReconciler.header = .ok (renderHeader r)) :=
  ⟨tagged_session, by decide +kernel, by decide +kernel,
    session_record (layout_blank rfl rfl rfl) manifest_apart_blank
      (Or.inl ⟨by simp +decide [Disk.present, Disk.stat, Disk.locate, Disk.locateWith, blankDisk,
        manifestReconciler, Disk.walk, Disk.node?, pieces_v, Disk.wantsDir, Except.bind,
        Place.node], rfl⟩)
      tagged_session (by simp [taggedLog])⟩

theorem renderHeader_bytes (r : Record) :
    ∃ rest, (renderHeader r).toUTF8.toList = 0x23 :: rest := by
  have hfirst : ("#pragma once" ++ "\n").toList.flatMap String.utf8EncodeChar =
      0x23 :: ("pragma once\n".toList.flatMap String.utf8EncodeChar) := by decide
  rw [Json.toUTF8_toList, renderHeader, headerLines, List.map_cons, String.join_cons,
    String.toList_append, List.flatMap_append, hfirst, List.cons_append]
  exact ⟨_, rfl⟩

/-- A header never reads as a record: it starts with a pragma, which no JSON value does. -/
theorem parseJson_renderHeader (r : Record) :
    ∃ m, Record.parseJson (renderHeader r) = .error m := by
  obtain ⟨rest, hbytes⟩ := renderHeader_bytes r
  unfold Record.parseJson Json.runReader
  simp only [hbytes, Json.run_bind, Json.readRecord, Json.skipBlanks_run, List.dropWhile_cons]
  simp [Json.isBlankByte, Json.wrongKind, Json.peekByte, Json.failAhead, Json.isDigitByte]
  simp [Functor.map, Except.map, throw, throwThe, MonadExceptOf.throw]

theorem load_corrupt {s : Store} {text m : String} (hp : d.present s.path = true)
    (ht : d.readText s.path = .ok text) (hr : Record.parseJson text = .error m) :
    s.load.run d = (.error (.corrupt s.path m), d) := by
  unfold Store.load
  simp only [run_bind, run_get, hp, Bool.not_true, Bool.false_eq_true, ↓reduceIte, ht, hr,
    run_throw]

/-- The log of one release build with the header aliasing the version file. -/
def aliasLog : List (Target × Lookup × Outcome) :=
  [(⟨"esp"⟩, aliasReconciler.manifestSeen blankDisk,
    ⟨⟨aliasRecord, false, true, false⟩, false, true, false⟩)]

/-- The disk that build leaves: the header text where the version file is. -/
def aliasEnd : Disk := ⟨[(["prog_ver.json"], .file (renderHeader aliasRecord).toUTF8.toList)], []⟩

theorem aliasEnd_readText : aliasEnd.readText "prog_ver.json" = .ok (renderHeader aliasRecord) := by
  have hmax : ¬ pathMax ≤ "prog_ver.json".utf8ByteSize := by decide
  have hshort : tooLong "prog_ver.json" = false := by decide
  have hroot : Path.hasRoot "prog_ver.json" = false := by decide
  have hnode : aliasEnd.node? ["prog_ver.json"] =
      some (.file (renderHeader aliasRecord).toUTF8.toList) := by
    simp [aliasEnd, Disk.node?]
  have hloc : aliasEnd.locate true "prog_ver.json" =
      .ok (.found ["prog_ver.json"] (.file (renderHeader aliasRecord).toUTF8.toList) false) := by
    simp [hmax, hshort, hroot, show aliasEnd.cwd = [] from rfl, Disk.locate, Disk.locateWith,
      Disk.walk, hnode, pieces_version_top, Disk.wantsDir]
  exact readText_found hloc

/-- Loading the version file fails once the header has been written over it. -/
theorem aliasEnd_load_corrupt :
    ∃ m, aliasReconciler.store.load.run aliasEnd =
      (.error (.corrupt "prog_ver.json" m), aliasEnd) := by
  obtain ⟨m, hm⟩ := parseJson_renderHeader aliasRecord
  exact ⟨m, load_corrupt (present_of_isFile (isFile_of_readText aliasEnd_readText))
    aliasEnd_readText hm⟩

theorem aliased_session_loses_record :
    aliasReconciler.Session blankDisk aliasLog aliasEnd ∧
    ∃ m, aliasReconciler.store.load.run aliasEnd =
      (.error (.corrupt "prog_ver.json" m), aliasEnd) :=
  ⟨.build .start (Within.refl _ _ _) alias_run, aliasEnd_load_corrupt⟩

end FirmwareStamp.Version
