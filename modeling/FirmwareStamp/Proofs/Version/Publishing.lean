import FirmwareStamp.Proofs.Disk.Making
import FirmwareStamp.Proofs.Disk.Tree
import FirmwareStamp.Proofs.Hook.Publish

/-!
Publishing a build product. The checks come first and write nothing: the product must be
a regular file, and a release target needs a version file that holds a record. Then the
output directory is made with its parents and the product is copied. A publication that
succeeded changed only directories made on the way to the output directory and the file
at the destination, which holds the bytes the product held, unless the destination is the
product itself: the copy opens the destination for writing first, and the product is
emptied.
-/

namespace FirmwareStamp.Version

open Disk FirmwareStamp.Action Hook

variable {p : Publisher} {t : Target} {d d' : Disk}

theorem destination_keeps (p : Publisher) (t : Target) (d : Disk) :
    ((p.destination t).run d).2 = d := by
  rw [destination_run]
  split
  · rfl
  · split
    · rename_i hp
      rw [load_run_present hp]
      rcases d.readText p.store.path with e | text
      · rfl
      · dsimp only
        rcases Record.parseJson text with m | r <;> rfl
    · rfl

theorem destination_error {e : PublishError} (h : ((p.destination t).run d).1 = .error e) :
    ∃ ve, e = .version ve := by
  rw [destination_run] at h
  split at h
  · cases h
  · split at h
    · split at h
      · cases h
      · exact ⟨_, (Except.error.inj h).symm⟩
    · exact ⟨_, (Except.error.inj h).symm⟩

/-- The destination fails exactly for a release target whose version file does not read as
a record: it is missing, unreadable, or holds text that is no record. -/
theorem destination_error_iff (p : Publisher) (t : Target) (d : Disk) :
    (∃ e, ((p.destination t).run d).1 = .error (.version e)) ↔
      t.isDebug = false ∧
        ¬ ∃ text r, d.readText p.store.path = .ok text ∧ Record.parseJson text = .ok r := by
  rw [destination_run]
  cases hdebug : t.isDebug
  · by_cases hp : d.present p.store.path = true
    · simp only [Bool.false_eq_true, if_false, hp, if_true, load_run_present hp]
      rcases ht : d.readText p.store.path with e | text
      · simp
      · rcases hr : Record.parseJson text with m | r
        · simp [hr]
        · simp [hr]
    · have hnone : ¬ ∃ text r, d.readText p.store.path = .ok text ∧ Record.parseJson text = .ok r :=
        fun ⟨_, _, ht, _⟩ => hp (present_of_isFile (isFile_of_readText ht))
      simp only [Bool.false_eq_true, ↓reduceIte, hp]
      exact iff_of_true ⟨_, rfl⟩ ⟨trivial, hnone⟩
  · simp

/-- Publishing in closed form: the product check, the destination, which writes nothing,
then the output directory and the copy. -/
theorem publish_run (p : Publisher) (t : Target) (d : Disk) :
    (p.publish t).run d =
      if d.isFile p.product then
        match ((p.destination t).run d).1 with
        | .ok dst =>
          match d.createDirAll p.outputDir with
          | (d2, some e) => (.error (.copyFailed p.product p.outputDir e), d2)
          | (d2, none) =>
            match d2.copy p.product dst with
            | .ok d3 => (.ok dst, d3)
            | .error e => (.error (.copyFailed p.product dst e), d2)
        | .error e => (.error e, d)
      else (.error (.productMissing p.product), d) := by
  unfold Publisher.publish
  simp only [run_bind, run_get]
  cases hfile : d.isFile p.product
  · simp
  · simp only [Bool.not_true, Bool.false_eq_true, if_false, run_pure, if_true, run_bind]
    rcases hdst : (p.destination t).run d with ⟨e | dst, d1⟩
    · have hd1 : d1 = d := by simpa [hdst] using destination_keeps p t d
      rw [hd1]
    · have hd1 : d1 = d := by simpa [hdst] using destination_keeps p t d
      rw [hd1]
      simp only [run_attemptPartly]
      rcases d.createDirAll p.outputDir with ⟨d2, _ | c⟩
      · simp only [run_attempt]
        rcases d2.copy p.product dst with e | d3 <;> rfl
      · rfl

/-- A publication that failed: the product was missing, or the destination failed, both
before any write, or making the output directory or copying failed. -/
theorem publish_error {e : PublishError} (h : (p.publish t).run d = (.error e, d')) :
    (d.isFile p.product = false ∧ e = .productMissing p.product ∧ d' = d) ∨
    (d.isFile p.product = true ∧ ((p.destination t).run d).1 = .error e ∧ d' = d) ∨
    (∃ dst c, e = .copyFailed p.product dst c) := by
  rw [publish_run] at h
  cases hfile : d.isFile p.product
  · simp only [hfile, Bool.false_eq_true, if_false, Prod.mk.injEq, Except.error.injEq] at h
    exact .inl ⟨rfl, h.1.symm, h.2.symm⟩
  · simp only [hfile, if_true] at h
    rcases hdst : ((p.destination t).run d).1 with e' | dst
    · simp only [hdst, Prod.mk.injEq, Except.error.injEq] at h
      exact .inr (.inl ⟨rfl, h.1 ▸ rfl, h.2.symm⟩)
    · simp only [hdst] at h
      rcases hdirs : d.createDirAll p.outputDir with ⟨d2, _ | c⟩
      · simp only [hdirs] at h
        rcases hcopy : d2.copy p.product dst with c | d3
        · simp only [hcopy, Prod.mk.injEq, Except.error.injEq] at h
          exact .inr (.inr ⟨dst, c, h.1.symm⟩)
        · simp [hcopy] at h
      · simp only [hdirs, Prod.mk.injEq, Except.error.injEq] at h
        exact .inr (.inr ⟨p.outputDir, c, h.1.symm⟩)

/-- A publication that succeeded: the product was a regular file, the destination was
found without writing, the output directory was made and the copy went through. -/
theorem publish_ok {dst : String} (h : (p.publish t).run d = (.ok dst, d')) :
    d.isFile p.product = true ∧ (p.destination t).run d = (.ok dst, d) ∧
      ∃ d2, d.createDirAll p.outputDir = (d2, none) ∧ d2.copy p.product dst = .ok d' := by
  rw [publish_run] at h
  cases hfile : d.isFile p.product
  · simp [hfile] at h
  · simp only [hfile, if_true] at h
    rcases hdst : ((p.destination t).run d).1 with e | dst'
    · simp [hdst] at h
    · simp only [hdst] at h
      rcases hdirs : d.createDirAll p.outputDir with ⟨d2, _ | c⟩
      · simp only [hdirs] at h
        rcases hcopy : d2.copy p.product dst' with c | d3
        · simp [hcopy] at h
        · simp only [hcopy, Prod.mk.injEq, Except.ok.injEq] at h
          obtain ⟨rfl, rfl⟩ := h
          exact ⟨rfl, Prod.ext hdst (destination_keeps p t d), d2, rfl, hcopy⟩
      · simp [hdirs] at h

/-- What a publication that succeeded left: the destination file holds the bytes the
product held, or nothing when the destination is the product itself, and every other
change is a directory made where the output directory or a text above it now leads. -/
theorem publish_ok_disk {dst : String} (h : (p.publish t).run d = (.ok dst, d')) :
    d'.cwd = d.cwd ∧
    ∃ data src q, d.readBytes p.product = .ok data ∧ d.canonicalize p.product = .ok src ∧
      d'.canonicalize dst = .ok q ∧ d'.readBytes dst = .ok (if q = src then [] else data) ∧
      ∀ r, d'.node? r ≠ d.node? r → r = q ∨
        (d.node? r = none ∧ d'.node? r = some .dir ∧
          ∃ a, Path.Above a p.outputDir ∧ d'.canonicalize a = .ok r) := by
  obtain ⟨hfile, -, d2, hdirs, hcopy⟩ := publish_ok h
  have hmake : MakesDirs p.outputDir d d2 := by
    have hgo := createDirAll_makes d p.outputDir
    rwa [hdirs] at hgo
  obtain ⟨data, src, q, hsrc, hq, rfl⟩ := copy_ok hcopy
  obtain ⟨data0, hread⟩ := readBytes_of_isFile hfile
  obtain ⟨src0, hloc⟩ := locate_of_readBytes hread
  have hkept : d2.locate true p.product = .ok (.found src0 (.file data0) false) :=
    locateWith_grow hmake.grows hloc (by simp [Place.entry])
  rw [hkept] at hsrc
  simp only [Except.ok.injEq, Place.found.injEq, Node.file.injEq] at hsrc
  obtain ⟨rfl, rfl, -⟩ := hsrc
  obtain ⟨hne, hleaf⟩ := writePlace_leaf hq
  have hdst := locate_put_writePlace hq (if q = src0 then [] else data0)
  have hrw := (rewrites_put hne hleaf (if q = src0 then [] else data0)).1
  refine ⟨hrw.cwd.trans hmake.grows.cwd, data0, src0, q, hread, canonicalize_of_locate hloc,
    canonicalize_of_locate hdst, readBytes_of_locate hdst, fun r hr => ?_⟩
  by_cases hrq : r = q
  · exact .inl hrq
  · rw [hrw.off r hrq] at hr ⊢
    obtain ⟨hnone, hdir, a, habove, hcan⟩ := hmake.made r hr
    exact .inr ⟨hnone, hdir, a, habove, canonicalize_rewrites hrw hcan hrq⟩

/-- Publishing checks before it writes and then copies. A product that is no regular file
fails the run, and after it a release target whose version file holds no record; every
failure but one of making the output directory or copying leaves the disk as it was. A
publication that succeeded returns the destination, and changed only the file there, which
holds the product's bytes unless it is the product itself, now empty, and directories made
where the output directory or a text above it leads. -/
theorem publish_checks_then_copies (p : Publisher) (t : Target) (d : Disk) :
    ((∃ s, ((p.publish t).run d).1 = .error (.productMissing s)) ↔
      d.isFile p.product = false) ∧
    (d.isFile p.product = true →
      ((∃ e, ((p.publish t).run d).1 = .error (.version e)) ↔
        t.isDebug = false ∧
          ¬ ∃ text r, d.readText p.store.path = .ok text ∧ Record.parseJson text = .ok r)) ∧
    (∀ e d', (p.publish t).run d = (.error e, d') →
      d' = d ∨ ∃ dst c, e = .copyFailed p.product dst c) ∧
    (∀ dst d', (p.publish t).run d = (.ok dst, d') →
      (p.destination t).run d = (.ok dst, d) ∧ d'.cwd = d.cwd ∧
      ∃ data src q, d.readBytes p.product = .ok data ∧ d.canonicalize p.product = .ok src ∧
        d'.canonicalize dst = .ok q ∧ d'.readBytes dst = .ok (if q = src then [] else data) ∧
        ∀ r, d'.node? r ≠ d.node? r → r = q ∨
          (d.node? r = none ∧ d'.node? r = some .dir ∧
            ∃ a, Path.Above a p.outputDir ∧ d'.canonicalize a = .ok r)) := by
  refine ⟨⟨?_, ?_⟩, fun hfile => ⟨?_, ?_⟩, ?_, fun dst d' h => ⟨(publish_ok h).2.1, publish_ok_disk h⟩⟩
  · rintro ⟨s, hs⟩
    rcases publish_error (Prod.ext hs rfl) with ⟨hfile, -⟩ | ⟨-, hdst, -⟩ | ⟨dst, c, hc⟩
    · exact hfile
    · obtain ⟨ve, hve⟩ := destination_error hdst
      cases hve
    · cases hc
  · intro hfile
    rw [publish_run, hfile]
    exact ⟨_, rfl⟩
  · rintro ⟨ve, hve⟩
    rcases publish_error (Prod.ext hve rfl) with ⟨hmissing, -⟩ | ⟨-, hdst, -⟩ | ⟨dst, c, hc⟩
    · rw [hfile] at hmissing
      cases hmissing
    · exact (destination_error_iff p t d).mp ⟨ve, hdst⟩
    · cases hc
  · intro hfail
    obtain ⟨ve, hve⟩ := (destination_error_iff p t d).mpr hfail
    refine ⟨ve, ?_⟩
    rw [publish_run, if_pos hfile, hve]
  · intro e d' h
    rcases publish_error h with ⟨-, -, hd⟩ | ⟨-, -, hd⟩ | hc
    · exact .inl hd
    · exact .inl hd
    · exact .inr hc

/-- A disk whose output directory already holds the product under its published name. -/
def selfDisk : Disk :=
  ⟨[(["out"], .dir), (["out", "esp_debug (firmware).bin"], .file [70, 87])], []⟩

/-- A debug product published into the directory it already stands in, under its own name. -/
def selfPublisher : Publisher := ⟨⟨"v.json", "x"⟩, "out/esp_debug (firmware).bin", "out"⟩

theorem pieces_self : pieces "out/esp_debug (firmware).bin" = ["out", "esp_debug (firmware).bin"] := by
  decide

theorem pieces_out : pieces "out" = ["out"] := by decide

theorem self_locate : selfDisk.locate true selfPublisher.product =
    .ok (.found ["out", "esp_debug (firmware).bin"] (.file [70, 87]) false) := by
  simp +decide [selfDisk, selfPublisher, Disk.locate, Disk.locateWith, Disk.walk, Disk.node?,
    pieces_self, Disk.wantsDir]

/-- Publishing a product that is its own destination succeeds and empties it. -/
theorem self_publish_empties_product :
    selfDisk.readBytes selfPublisher.product = .ok [70, 87] ∧
    (selfPublisher.publish ⟨"esp_debug"⟩).run selfDisk =
      (.ok selfPublisher.product, selfDisk.put ["out", "esp_debug (firmware).bin"] (.file [])) ∧
    (selfDisk.put ["out", "esp_debug (firmware).bin"] (.file [])).readBytes selfPublisher.product =
      .ok [] := by
  have hdst : (selfPublisher.destination ⟨"esp_debug"⟩).run selfDisk =
      (.ok selfPublisher.product, selfDisk) := by
    rw [destination_run, if_pos (by decide +kernel)]
    rfl
  have hdirs : selfDisk.createDirAll selfPublisher.outputDir = (selfDisk, none) := by
    simp +decide [selfDisk, selfPublisher, Disk.createDirAll, Disk.createDirAll.go,
      Disk.createDir, Disk.locateLast, Disk.locateWith, Disk.walk, Disk.node?, Disk.isDir,
      Disk.stat, Disk.locate, Disk.wantsDir, Except.bind, Place.node, pieces_out]
  have hplace : selfDisk.writePlace selfPublisher.product = .ok ["out", "esp_debug (firmware).bin"] := by
    simp [Disk.writePlace, self_locate]
  have hcopy : selfDisk.copy selfPublisher.product selfPublisher.product =
      .ok (selfDisk.put ["out", "esp_debug (firmware).bin"] (.file [])) := by
    simp [Disk.copy, self_locate, hplace]
  refine ⟨readBytes_of_locate self_locate, ?_, readBytes_of_locate (locate_put_writePlace hplace [])⟩
  rw [publish_run, if_pos (isFile_of_locate self_locate), hdst]
  simp only [hdirs, hcopy]

end FirmwareStamp.Version
