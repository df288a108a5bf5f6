import FirmwareStamp.Proofs.Join.Matches

/-!
When a mask picks a file only once. A file the walk reports is the base followed by the
names of its way, so walks under two different listed names never meet, and a way through
segments without `**` takes one name for each segment. With at most one `**` the number of
names that `**` takes is fixed by the length of the file's path, so a file has one way and
the walk reports it once. Two `**` components can share the names of one way between them
in more than one manner: `**/**/f` reports `./a/f` once for each.
-/

namespace FirmwareStamp.Join

open Disk

variable {d : Disk}

theorem pieces_joinAll {names : List String} (h : ∀ c ∈ names, Path.Plain c) (t : String) :
    pieces (joinAll t names) = pieces t ++ names := by
  induction names generalizing t with
  | nil => simp [joinAll]
  | cons c names ih =>
    rw [joinAll_cons, ih (fun c' hc' => h c' (List.mem_cons_of_mem _ hc')),
      pieces_join (h c List.mem_cons_self)]
    simp

/-- A file the walk reports is the base text followed by the names of a way. -/
theorem pieces_of_mem_walk (hd : d.Proper) {dir q : String} {segments : List Segment}
    (hseg : ∀ s ∈ segments, s.Plain) (hq : q ∈ walk d dir segments) :
    ∃ names, Picks d dir segments names ∧ pieces q = pieces dir ++ names := by
  obtain ⟨-, names, hpick, rfl⟩ := picks_of_mem_walk hq
  exact ⟨names, hpick, pieces_joinAll (hpick.plain hd hseg) dir⟩

theorem pieces_of_mem_walk_join (hd : d.Proper) {dir q : String} {e : String × Node}
    (he : e ∈ listDir d dir) {segments : List Segment} (hseg : ∀ s ∈ segments, s.Plain)
    (hq : q ∈ walk d (Path.join dir e.1) segments) :
    ∃ names, Picks d (Path.join dir e.1) segments names ∧ pieces q = pieces dir ++ e.1 :: names := by
  obtain ⟨names, hpick, hp⟩ := pieces_of_mem_walk hd hseg hq
  rw [pieces_join (plain_of_listDir hd he)] at hp
  exact ⟨names, hpick, by simp [hp]⟩

/-- Without `**` a way takes one name for each segment. -/
theorem Picks.length_fixed {dir : String} {segments : List Segment} {names : List String}
    (h : Picks d dir segments names) :
    Segment.recursive ∉ segments → names.length = segments.length := by
  induction h with
  | nil => simp
  | literal _ ih | pattern _ _ _ ih =>
    intro hr
    simp [ih fun h => hr (List.mem_cons_of_mem _ h)]
  | stay | descend => simp

/-- Through a single `**` a way takes at least one name for each other segment. -/
theorem Picks.length_star {dir : String} {rest : List Segment} {names : List String}
    (h : Picks d dir (.recursive :: rest) names) (hr : Segment.recursive ∉ rest) :
    rest.length ≤ names.length := by
  generalize hl : (Segment.recursive :: rest) = l at h
  induction h with
  | nil | literal | pattern => cases hl
  | stay h =>
    cases hl
    exact Nat.le_of_eq (h.length_fixed hr).symm
  | descend _ _ _ ih =>
    cases hl
    have := ih rfl
    simp only [List.length_cons]
    omega

theorem listDir_names_nodup (hd : d.Proper) (dir : String) :
    ((listDir d dir).map (·.1)).Nodup := by
  unfold listDir readDir
  split
  · rename_i entries hread
    split at hread
    · cases hread
      exact hd.children_nodup _
    all_goals cases hread
  · simp

/-- Walks under the listed names of a directory, each reporting no file twice and only
files below its own name, together report no file twice. -/
theorem flatMap_listDir_nodup (hd : d.Proper) {dir : String} {g : String × Node → List String}
    (hnodup : ∀ e ∈ listDir d dir, (g e).Nodup)
    (hunder : ∀ e ∈ listDir d dir, ∀ q ∈ g e, ∃ names, pieces q = pieces dir ++ e.1 :: names) :
    ((listDir d dir).flatMap g).Nodup := by
  refine List.nodup_flatMap.2 ⟨hnodup, ?_⟩
  have hpair := List.pairwise_map.1 (listDir_names_nodup hd dir)
  refine hpair.imp_of_mem fun {a b} ha hb hab q hqa hqb => ?_
  obtain ⟨na, hpa⟩ := hunder a ha q hqa
  obtain ⟨nb, hpb⟩ := hunder b hb q hqb
  rw [hpa] at hpb
  simp only [List.append_cancel_left_eq, List.cons.injEq] at hpb
  exact hab hpb.1

/-- On a proper disk, a walk through plain segments with at most one `**` reports no file
twice. -/
theorem walk_nodup (hd : d.Proper) (dir : String) (segments : List Segment)
    (hseg : ∀ s ∈ segments, s.Plain) (hone : segments.count .recursive ≤ 1) :
    (walk d dir segments).Nodup := by
  fun_induction walk d dir segments with
  | case1 => simp
  | case2 => simp
  | case3 dir n rest next hp ih =>
    exact ih (List.forall_mem_cons.1 hseg).2 (by simpa using hone)
  | case4 => simp
  | case5 dir p rest ih =>
    have hrest : ∀ s ∈ rest, s.Plain := (List.forall_mem_cons.1 hseg).2
    refine flatMap_listDir_nodup hd (fun e _ => ?_) (fun e he q hq => ?_)
    · split
      · exact ih e hrest (by simpa using hone)
      · exact List.nodup_nil
    · split at hq
      · obtain ⟨names, -, h⟩ := pieces_of_mem_walk_join hd he hrest hq
        exact ⟨names, h⟩
      · cases hq
  | case6 dir rest ihere ih =>
    have hrest : ∀ s ∈ rest, s.Plain := (List.forall_mem_cons.1 hseg).2
    have hnr : Segment.recursive ∉ rest := by
      rw [← List.count_eq_zero]
      simp only [List.count_cons_self] at hone
      omega
    refine List.nodup_append.2 ⟨ihere hrest (by simp [List.count_eq_zero.2 hnr]),
      flatMap_listDir_nodup hd (fun e _ => ?_) (fun e he q hq => ?_), ?_⟩
    · split
      · rename_i hdeep
        exact ih e hdeep hseg hone
      · exact List.nodup_nil
    · split at hq
      · obtain ⟨names, -, h⟩ := pieces_of_mem_walk_join hd he hseg hq
        exact ⟨names, h⟩
      · cases hq
    · intro q hq q' hq' hqq
      subst hqq
      obtain ⟨names, hpick, hp⟩ := pieces_of_mem_walk hd hrest hq
      obtain ⟨e, he, hqe⟩ := List.mem_flatMap.1 hq'
      split at hqe
      · obtain ⟨names', hpick', hp'⟩ := pieces_of_mem_walk_join hd he hseg hqe
        have hfixed := hpick.length_fixed hnr
        have hstar := hpick'.length_star hnr
        have hlen := congrArg List.length (hp.symm.trans hp')
        simp only [List.length_append, List.length_cons] at hlen
        omega
      · cases hqe

/-- A component compiles to `**` exactly when it is `**`. -/
theorem segmentOf_recursive {mask : String} {c : Path.Component} {o : Option Segment}
    (h : segmentOf mask c = .ok o) : o = some .recursive ↔ c = .name "**" := by
  rcases segmentOf_eq_ok h with ⟨rfl | rfl, rfl⟩ | ⟨rfl, rfl⟩ | ⟨rfl, rfl⟩ | ⟨n, rfl, hw, rfl⟩ |
      ⟨n, p, rfl, hstar, -, -, rfl⟩
  · simp
  · simp
  · simp
  · simp
  · have hstar : n ≠ "**" := by
      rintro rfl
      simp [hasWildcard_star] at hw
    simp [hstar]
  · simp [hstar]

theorem count_recursive_of_mapM {mask : String} :
    ∀ {comps : List Path.Component} {os : List (Option Segment)},
      comps.mapM (segmentOf mask) = .ok os →
        (os.filterMap id).count .recursive = comps.count (.name "**")
  | [], os, h => by
    cases h
    rfl
  | c :: comps, os, h => by
    obtain ⟨o, os', hc, hcs, rfl⟩ := mapM_cons_eq_ok h
    have hrec := segmentOf_recursive hc
    rw [List.count_cons, ← count_recursive_of_mapM hcs]
    by_cases hstar : c = .name "**"
    · obtain rfl := hrec.2 hstar
      simp [hstar]
    · cases o with
      | none => simp [hstar]
      | some s =>
        have hs : s ≠ .recursive := fun hs => hstar (hrec.1 (by rw [hs]))
        simp [hstar, hs]

/-- On a proper disk, a mask with at most one `**` component picks no file twice, sorted
or not. -/
theorem resolveMask_nodup (hd : d.Proper) (src mask : String) (sort : Bool)
    (hone : (Path.components mask).count (.name "**") ≤ 1) {found : List String}
    (h : resolveMask d src mask sort = .ok found) : found.Nodup := by
  cases hf : d.isFile mask with
  | true =>
    rw [resolveMask_file hf] at h
    cases h
    exact List.nodup_singleton mask
  | false =>
    rcases hmap : (Path.components mask).mapM (segmentOf mask) with e | os
    · rw [resolveMask_error sort hf (compileMask_of_mapM_error src hmap)] at h
      cases h
    · rw [resolveMask_compiled sort hf (compileMask_of_mapM hmap)] at h
      cases h
      have hseg := plain_of_mapM_segmentOf hmap fun n hn => plain_of_mem_components hn
      have hwalk := walk_nodup hd (maskBase src mask) _ hseg
        (by rw [count_recursive_of_mapM hmap]; exact hone)
      split
      · exact (List.mergeSort_perm _ _).nodup_iff.2 hwalk
      · exact hwalk

/-! ### A directory with one file -/

/-- A directory `a` holding a file `a/f`. -/
def starDisk : Disk := ⟨[(["a"], .dir), (["a", "f"], .file [120])], []⟩

theorem starDisk_proper : starDisk.Proper := ⟨by decide, by decide⟩

theorem starDisk_listDir_top : listDir starDisk "." = [("a", .dir)] := by
  have hp : pieces "." = ["."] := by decide
  simp +decide [listDir, readDir, Disk.locate, Disk.locateWith, starDisk, Disk.walk,
    Disk.wantsDir, Disk.children, hp]

theorem starDisk_listDir_a : listDir starDisk "./a" = [("f", .file [120])] := by
  have hp : pieces "./a" = [".", "a"] := by decide
  simp +decide [listDir, readDir, Disk.locate, Disk.locateWith, starDisk, Disk.walk,
    Disk.node?, Disk.wantsDir, Disk.children, hp]

theorem starDisk_file : starDisk.isFile "./a/f" = true := by
  have hp : pieces "./a/f" = [".", "a", "f"] := by decide
  simp +decide [Disk.isFile, Disk.stat, Disk.locate, Disk.locateWith, starDisk, Disk.walk,
    Disk.node?, Disk.wantsDir, Except.bind, hp]

theorem starDisk_absent : starDisk.present "./f" = false := by
  have hp : pieces "./f" = [".", "f"] := by decide
  simp +decide [Disk.present, Disk.stat, Disk.locate, Disk.locateWith, starDisk, Disk.walk,
    Disk.node?, Disk.wantsDir, Except.bind, hp]

theorem starDisk_walk_a_file : walk starDisk "./a" [.literal "f"] = ["./a/f"] := by
  have hj : Path.join "./a" "f" = "./a/f" := by decide
  rw [walk_literal, hj]
  simp only [present_of_isFile starDisk_file, ↓reduceIte]
  simp [walk_nil, starDisk_file]

theorem starDisk_walk_a_star : walk starDisk "./a" [.recursive, .literal "f"] = ["./a/f"] := by
  rw [walk_recursive_of_proper starDisk_proper, starDisk_walk_a_file, starDisk_listDir_a]
  simp

theorem starDisk_walk_star : walk starDisk "." [.recursive, .literal "f"] = ["./a/f"] := by
  have hj : Path.join "." "f" = "./f" := by decide
  have ha : Path.join "." "a" = "./a" := by decide
  rw [walk_recursive_of_proper starDisk_proper, walk_literal, hj, starDisk_listDir_top]
  simp [starDisk_absent, ha, starDisk_walk_a_star]

theorem starDisk_walk_a_stars :
    walk starDisk "./a" [.recursive, .recursive, .literal "f"] = ["./a/f"] := by
  rw [walk_recursive_of_proper starDisk_proper, starDisk_walk_a_star, starDisk_listDir_a]
  simp

theorem starDisk_walk_stars :
    walk starDisk "." [.recursive, .recursive, .literal "f"] = ["./a/f", "./a/f"] := by
  have ha : Path.join "." "a" = "./a" := by decide
  rw [walk_recursive_of_proper starDisk_proper, starDisk_walk_star, starDisk_listDir_top]
  simp [ha, starDisk_walk_a_stars]

theorem starDisk_masks_not_files :
    starDisk.isFile "**/f" = false ∧ starDisk.isFile "**/**/f" = false := by
  have hp : pieces "**/f" = ["**", "f"] := by decide
  have hp' : pieces "**/**/f" = ["**", "**", "f"] := by decide
  constructor <;> simp +decide [Disk.isFile, Disk.stat, Disk.locate, Disk.locateWith, starDisk,
    Disk.walk, Disk.node?, Disk.wantsDir, Except.bind, hp, hp']

theorem starDisk_star_resolves : resolveMask starDisk "." "**/f" false = .ok ["./a/f"] := by
  have hc : Path.components "**/f" = [.name "**", .name "f"] := by decide
  have hmap : (Path.components "**/f").mapM (segmentOf "**/f") =
      .ok [some .recursive, some (.literal "f")] := by
    rw [hc]
    simp [List.mapM_cons, segmentOf_literal (by decide : Glob.hasWildcard "f" = false), bind,
      Except.bind, pure, Except.pure]
  have hbase : maskBase "." "**/f" = "." := by decide
  rw [resolveMask_walk starDisk_masks_not_files.1 hmap, hbase]
  simp [starDisk_walk_star]

theorem starDisk_stars_resolve :
    resolveMask starDisk "." "**/**/f" false = .ok ["./a/f", "./a/f"] := by
  have hc : Path.components "**/**/f" = [.name "**", .name "**", .name "f"] := by decide
  have hmap : (Path.components "**/**/f").mapM (segmentOf "**/**/f") =
      .ok [some .recursive, some .recursive, some (.literal "f")] := by
    rw [hc]
    simp [List.mapM_cons, segmentOf_literal (by decide : Glob.hasWildcard "f" = false), bind,
      Except.bind, pure, Except.pure]
  have hbase : maskBase "." "**/**/f" = "." := by decide
  rw [resolveMask_walk starDisk_masks_not_files.2 hmap, hbase]
  simp [starDisk_walk_stars]

theorem single_star_picks_once :
    starDisk.Proper ∧ (Path.components "**/f").count (.name "**") ≤ 1 ∧
      resolveMask starDisk "." "**/f" false = .ok ["./a/f"] ∧ ["./a/f"].Nodup :=
  ⟨starDisk_proper, by decide, starDisk_star_resolves,
    resolveMask_nodup starDisk_proper "." "**/f" false (by decide) starDisk_star_resolves⟩

/-- With two `**` components the file `./a/f` is picked twice: once with the first taking
`a`, once with the second. -/
theorem double_star_repeats :
    resolveMask starDisk "." "**/**/f" false = .ok ["./a/f", "./a/f"] ∧
      ¬["./a/f", "./a/f"].Nodup :=
  ⟨starDisk_stars_resolve, by decide⟩

end FirmwareStamp.Join
