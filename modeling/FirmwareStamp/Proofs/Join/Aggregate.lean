import FirmwareStamp.Proofs.Disk.Links
import FirmwareStamp.Proofs.Version.Steps
import FirmwareStamp.Join.Aggregate

/-!
What a join writes. The target is created or emptied first, at the place its text leads to;
then each mask is resolved on that disk, in order, and every file a mask picks is read,
unless it resolves to the target itself. When the join succeeds, the files it reports are
exactly the masks' matches in mask order with the target's left out, the target holds
their bytes one after another as they were before the join, and no other place changed:
the target's own rewrite moves no other lookup, even through links.
-/

namespace FirmwareStamp.Join

open Disk FirmwareStamp.Action

variable {d : Disk} {target : Option (List String)}

theorem mapM_ok_of_forall {α β ε : Type} {f g : α → Except ε β} :
    ∀ {l : List α} {cs : List β}, (∀ a ∈ l, ∀ b, f a = .ok b → g a = .ok b) →
      l.mapM f = .ok cs → l.mapM g = .ok cs
  | [], _, _, h => h
  | a :: l, cs, hfg, h => by
    rw [List.mapM_cons] at h ⊢
    rcases hfa : f a with e | b
    · rw [hfa] at h
      cases h
    · rcases hl : l.mapM f with e | cs'
      · rw [hfa, hl] at h
        cases h
      · rw [hfa, hl] at h
        rw [hfg a List.mem_cons_self b hfa,
          mapM_ok_of_forall (fun a' ha' => hfg a' (List.mem_cons_of_mem _ ha')) hl]
        exact h

/-- Reading the picked files that went through: those that do not resolve to the target,
read in order. -/
theorem readPicked_ok {ps names : List String} {data : List UInt8}
    (h : readPicked d target ps = (names, data, none)) :
    names = ps.filter (fun q => !(target.isSome && (d.canonicalize q).toOption == target)) ∧
    ∃ chunks, names.mapM d.readBytes = .ok chunks ∧ data = chunks.flatten := by
  induction ps generalizing names data with
  | nil =>
    simp only [readPicked, Prod.mk.injEq] at h
    obtain ⟨rfl, rfl, -⟩ := h
    exact ⟨rfl, [], rfl, rfl⟩
  | cons p rest ih =>
    unfold readPicked at h
    split at h
    · rename_i hskip
      obtain ⟨hnames, hdata⟩ := ih h
      simp only [List.filter_cons, hskip, Bool.not_true, Bool.false_eq_true, if_false]
      exact ⟨hnames, hdata⟩
    · rename_i hskip
      split at h
      · simp at h
      · rename_i bytes hread
        rcases hrest : readPicked d target rest with ⟨names', data', err⟩
        rw [hrest] at h
        simp only [Prod.mk.injEq] at h
        obtain ⟨rfl, rfl, rfl⟩ := h
        obtain ⟨hnames, chunks, hmap, rfl⟩ := ih hrest
        have hkeep : (!(target.isSome && (d.canonicalize p).toOption == target)) = true := by
          cases hb : (target.isSome && (d.canonicalize p).toOption == target)
          · rfl
          · exact absurd hb hskip
        refine ⟨by simp only [List.filter_cons, hkeep, if_true, hnames], bytes :: chunks, ?_, rfl⟩
        rw [List.mapM_cons, hread, hmap]
        rfl

/-- Collecting over masks that all went through: every mask resolved, and the files read
are their matches in order, the target's left out. -/
theorem collect_ok {src : String} {sort : Bool} {masks names : List String} {data : List UInt8}
    (h : collect d src sort target masks = (names, data, none)) :
    ∃ found, masks.mapM (fun m => resolveMask d src m sort) = .ok found ∧
      names = found.flatten.filter
        (fun q => !(target.isSome && (d.canonicalize q).toOption == target)) ∧
      ∃ chunks, names.mapM d.readBytes = .ok chunks ∧ data = chunks.flatten := by
  induction masks generalizing names data with
  | nil =>
    simp only [collect, Prod.mk.injEq] at h
    obtain ⟨rfl, rfl, -⟩ := h
    exact ⟨[], rfl, rfl, [], rfl, rfl⟩
  | cons m rest ih =>
    unfold collect at h
    split at h
    · simp at h
    · rename_i paths hpaths
      split at h
      · simp at h
      · rename_i names1 data1 hpicked
        rcases hrest : collect d src sort target rest with ⟨names2, data2, err⟩
        rw [hrest] at h
        simp only [Prod.mk.injEq] at h
        obtain ⟨rfl, rfl, rfl⟩ := h
        obtain ⟨hnames1, chunks1, hmap1, rfl⟩ := readPicked_ok hpicked
        obtain ⟨found, hfound, hnames2, chunks2, hmap2, rfl⟩ := ih hrest
        refine ⟨paths :: found, ?_, ?_, chunks1 ++ chunks2, ?_, by simp⟩
        · rw [List.mapM_cons, hpaths, hfound]
          rfl
        · simp [hnames1, hnames2]
        · rw [List.mapM_append, hmap1, hmap2]
          rfl

/-- A mask that names a file, from the working directory, picks that file alone. -/
theorem resolveMask_file {src m : String} {sort : Bool} (h : d.isFile m = true) :
    resolveMask d src m sort = .ok [m] := by
  simp [resolveMask, h, pure, Except.pure]

/-- A join in closed form: the target is emptied, the masks are collected on that disk, and
whatever was collected ends up in the target, also when a mask or a file failed. -/
theorem aggregate_run (src : String) (plan : Plan) (d : Disk) :
    (aggregate src plan).run d =
      match d.writePlace plan.targetFile with
      | .error e => (.error (.targetUnwritable plan.targetFile e), d)
      | .ok place =>
        match collect (d.put place (.file [])) src plan.sort
            ((d.put place (.file [])).canonicalize plan.targetFile).toOption plan.masks with
        | (names, data, err) =>
          ((match err with
            | some e => .error e
            | none => .ok names), d.put place (.file data)) := by
  unfold aggregate
  simp only [run_bind, run_get]
  rcases d.writePlace plan.targetFile with e | place
  · rfl
  · rcases hc : collect (d.put place (.file [])) src plan.sort
      ((d.put place (.file [])).canonicalize plan.targetFile).toOption plan.masks with
      ⟨names, data, _ | e⟩
    · simp [hc, run_bind, put_put]
      rfl
    · simp [hc, run_bind, put_put]

theorem aggregate_ok {src : String} {plan : Plan} {joined : List String} {d' : Disk}
    (h : (aggregate src plan).run d = (.ok joined, d')) :
    ∃ place data, d.writePlace plan.targetFile = .ok place ∧
      collect (d.put place (.file [])) src plan.sort
        ((d.put place (.file [])).canonicalize plan.targetFile).toOption plan.masks =
        (joined, data, none) ∧
      d' = d.put place (.file data) := by
  rw [aggregate_run] at h
  split at h
  · simp at h
  · rename_i place hw
    split at h
    rename_i names data err hc
    cases err with
    | some e => simp at h
    | none =>
      simp only [Prod.mk.injEq, Except.ok.injEq] at h
      obtain ⟨rfl, rfl⟩ := h
      exact ⟨place, data, hw, hc, rfl⟩

/-- A join that succeeded: the target was created or emptied at the place its text leads
to; each mask was resolved on that disk, in order, and every match that resolves to the
target was left out; the target then holds the bytes the files joined held before, one
after another, and nothing else changed. -/
theorem aggregate_joins {d' : Disk} {src : String} {plan : Plan} {joined : List String}
    (h : (aggregate src plan).run d = (.ok joined, d')) :
    ∃ place, d.writePlace plan.targetFile = .ok place ∧
      (d.put place (.file [])).canonicalize plan.targetFile = .ok place ∧
      (∃ found, plan.masks.mapM (fun m => resolveMask (d.put place (.file [])) src m plan.sort) =
          .ok found ∧
        joined = found.flatten.filter
          (fun q => ((d.put place (.file [])).canonicalize q).toOption ≠ some place)) ∧
      ∃ chunks, joined.mapM d.readBytes = .ok chunks ∧
        d'.readBytes plan.targetFile = .ok chunks.flatten ∧ d' = d.put place (.file chunks.flatten) := by
  obtain ⟨place, data, hw, hc, rfl⟩ := aggregate_ok h
  have hcanon : (d.put place (.file [])).canonicalize plan.targetFile = .ok place :=
    canonicalize_of_locate (locate_put_writePlace hw [])
  rw [hcanon] at hc
  obtain ⟨found, hfound, hjoined, chunks, hmap, rfl⟩ := collect_ok hc
  have hskip : joined = found.flatten.filter
      (fun q => ((d.put place (.file [])).canonicalize q).toOption ≠ some place) := by
    rw [hjoined]
    refine List.filter_congr fun q _ => ?_
    rcases (d.put place (.file [])).canonicalize q with e | q'
    · simp [Except.toOption]
    · by_cases hq : q' = place <;> simp [Except.toOption, hq]
  obtain ⟨hne, hleaf⟩ := writePlace_leaf hw
  have hback := (rewrites_put hne hleaf []).2
  refine ⟨place, hw, hcanon, ⟨found, hfound, hskip⟩, chunks, ?_, ?_, rfl⟩
  · refine mapM_ok_of_forall (fun q hq b hb => readBytes_rewrites hback hb ?_) hmap
    rw [hskip] at hq
    have hoff := (List.mem_filter.1 hq).2
    intro hq'
    simp [hq', Except.toOption] at hoff
  · have hwrite : d.writeBytes plan.targetFile chunks.flatten =
        .ok (d.put place (.file chunks.flatten)) := by
      simp [writeBytes, hw, Except.map]
    exact writeBytes_readBytes hwrite

/-- A disk holding one file `a`. -/
def letterDisk : Disk := ⟨[(["a"], .file [65])], []⟩

/-- Joining `a` twice and the target itself into `t`. -/
def letterPlan : Plan := ⟨["a", "a", "t"], "t", false⟩

/-- The disk that join leaves: `a` as it was, and `t` holding it twice. -/
def letterJoined : Disk := ⟨[(["a"], .file [65]), (["t"], .file [65, 65])], []⟩

theorem pieces_a : pieces "a" = ["a"] := by decide

theorem pieces_t : pieces "t" = ["t"] := by decide

theorem letter_writePlace : letterDisk.writePlace "t" = .ok ["t"] := by
  simp +decide [letterDisk, Disk.writePlace, Disk.locate, Disk.locateWith, Disk.walk, Disk.node?,
    Disk.wantsDir, pieces_t]

theorem letter_locate_a : (letterDisk.put ["t"] (.file [])).locate true "a" =
    .ok (.found ["a"] (.file [65]) false) := by
  simp +decide [letterDisk, Disk.put, Disk.locate, Disk.locateWith, Disk.walk, Disk.node?,
    Disk.wantsDir, pieces_a]

/-- The target, listed as a mask, is found after it was emptied, and then left out. -/
theorem letter_join_run :
    (aggregate "." letterPlan).run letterDisk = (.ok ["a", "a"], letterJoined) := by
  have hloc_t := locate_put_writePlace letter_writePlace []
  have hput : letterDisk.put ["t"] (.file [65, 65]) = letterJoined := rfl
  rw [aggregate_run]
  simp only [letterPlan, letter_writePlace, canonicalize_of_locate hloc_t]
  simp [collect, readPicked, resolveMask_file (isFile_of_locate letter_locate_a),
    resolveMask_file (isFile_of_locate hloc_t), canonicalize_of_locate letter_locate_a,
    canonicalize_of_locate hloc_t, readBytes_of_locate letter_locate_a, Except.toOption, hput]

theorem letter_join_joins :
    (aggregate "." letterPlan).run letterDisk = (.ok ["a", "a"], letterJoined) ∧
    ∃ place, letterDisk.writePlace letterPlan.targetFile = .ok place ∧
      (letterDisk.put place (.file [])).canonicalize letterPlan.targetFile = .ok place ∧
      (∃ found, letterPlan.masks.mapM
          (fun m => resolveMask (letterDisk.put place (.file [])) "." m letterPlan.sort) = .ok found ∧
        ["a", "a"] = found.flatten.filter
          (fun q => ((letterDisk.put place (.file [])).canonicalize q).toOption ≠ some place)) ∧
      ∃ chunks, ["a", "a"].mapM letterDisk.readBytes = .ok chunks ∧
        letterJoined.readBytes letterPlan.targetFile = .ok chunks.flatten ∧
        letterJoined = letterDisk.put place (.file chunks.flatten) :=
  ⟨letter_join_run, aggregate_joins letter_join_run⟩

end FirmwareStamp.Join
