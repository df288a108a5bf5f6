import FirmwareStamp.Proofs.Disk.Links
import FirmwareStamp.Proofs.Disk.Change

/-!
Making directories and copying files, whatever links stand on the way. A directory is
made at the empty place its text names by its last piece, and that text then leads there.
Making a directory with its parents only adds directories, each at an empty place that
the text or one of the texts above it then leads to (`createDirAll_makes`), also when it
fails halfway. A copy writes one file, at the place the destination text reaches, with
the bytes of the source, or with nothing when that place is the source's own: the
destination is opened for writing before the source is read.
-/

namespace FirmwareStamp.Disk

variable {d d' d'' : Disk} {s : String}

/-- An empty place that a text names by its last piece is empty for every kind of lookup. -/
theorem locateWith_missing {x : List String} {sl : Bool} (h : d.locateLast s = .ok (.missing x sl))
    (f w : Bool) : d.locateWith f w s = .ok (.missing x w) := by
  have hadm := admits_of_locateWith h
  rw [locateLast, locateWith_of_admits _ _ _ hadm] at h
  rw [locateWith_of_admits _ _ _ hadm]
  exact walk_missing_flags _ _ _ _ _ _ _ f w h rfl rfl

/-- A new directory stands at an empty place other than the root, and the text leads
there afterwards. -/
theorem createDir_ok (h : d.createDir s = .ok d') :
    ∃ x, x ≠ [] ∧ d.node? x = none ∧ d' = d.put x .dir ∧ d'.canonicalize s = .ok x := by
  unfold createDir at h
  split at h
  · simp at h
  · rename_i x sl hloc
    simp only [Except.ok.injEq] at h
    subst h
    have hadm := admits_of_locateWith hloc
    have hnone : d.node? x = none := by
      rw [locateLast, locateWith_of_admits _ _ _ hadm] at hloc
      simpa [Place.path, Place.entry] using walk_entry d _ _ _ _ _ _ hloc (by simp [Place.entry])
    have hne : x ≠ [] := fun hnil => by simp [hnil, node?_nil] at hnone
    have hkeep : ∀ q n, d.node? q = some n → n.opens = true → (d.put x .dir).node? q = some n := by
      intro q n hq _
      rw [node?_put _ _ hne, if_neg]
      · exact hq
      · rintro rfl
        simp [hnone] at hq
    have hmiss := locateWith_missing hloc true (wantsDir s)
    rw [locateWith_of_admits _ _ _ hadm] at hmiss
    have hwalk := walk_refill hkeep (m := .dir) (fun _ h => by cases h) _ _ _ _ _ _ hmiss
      (by simp [Place.entry]) (by simp [Place.path, node?_put _ _ hne])
    refine ⟨x, hne, hnone, rfl, ?_⟩
    simp only [canonicalize, locate, locateWith_of_admits _ _ _ hadm, base_of_cwd (put_cwd _ _ _),
      hwalk, Place.path]
  · simp at h

/-- `d'` is `d` with new directories, each at a place that was empty and that `s` or a
text above it leads to in `d'`. -/
structure MakesDirs (s : String) (d d' : Disk) : Prop where
  grows : Grows d d'
  made : ∀ q, d'.node? q ≠ d.node? q →
    d.node? q = none ∧ d'.node? q = some .dir ∧ ∃ a, Path.Above a s ∧ d'.canonicalize a = .ok q

namespace MakesDirs

theorem refl (s : String) (d : Disk) : MakesDirs s d d :=
  ⟨Grows.refl d, fun _ h => absurd rfl h⟩

theorem up {par : String} (hpar : Path.parent? s = some par) (h : MakesDirs par d d') :
    MakesDirs s d d' := by
  refine ⟨h.grows, fun q hq => ?_⟩
  obtain ⟨hnone, hdir, a, habove, hcan⟩ := h.made q hq
  exact ⟨hnone, hdir, a, .up hpar habove, hcan⟩

theorem trans (h : MakesDirs s d d') (h' : MakesDirs s d' d'') : MakesDirs s d d'' := by
  refine ⟨h.grows.trans h'.grows, fun q hq => ?_⟩
  by_cases hfirst : d'.node? q = d.node? q
  · obtain ⟨hnone, hdir, a, habove, hcan⟩ := h'.made q (hfirst ▸ hq)
    exact ⟨hfirst ▸ hnone, hdir, a, habove, hcan⟩
  · obtain ⟨hnone, hdir, a, habove, hcan⟩ := h.made q hfirst
    exact ⟨hnone, h'.grows.keeps _ _ hdir, a, habove, canonicalize_grow h'.grows hcan⟩

end MakesDirs

theorem createDir_makes (h : d.createDir s = .ok d') : MakesDirs s d d' := by
  obtain ⟨x, hne, hnone, rfl, hcan⟩ := createDir_ok h
  refine ⟨grows_put hne hnone .dir, fun q hq => ?_⟩
  by_cases hqx : q = x
  · subst hqx
    exact ⟨hnone, by simp [node?_put _ _ hne], s, .refl s, hcan⟩
  · rw [node?_put _ _ hne, if_neg hqx] at hq
    exact absurd rfl hq

/-- Making a directory with its parents only adds directories where the text or a text
above it then leads, also when it fails halfway. -/
theorem createDirAll_go_makes (fuel : Nat) (d : Disk) (s : String) :
    MakesDirs s d (createDirAll.go fuel d s).1 := by
  fun_induction createDirAll.go fuel d s with
  | case1 | case2 | case4 | case9 | case10 => exact MakesDirs.refl _ _
  | case3 _ d s _ d' hdir => exact createDir_makes hdir
  | case5 fuel d s _ _ par hpar d' e hgo ih | case7 fuel d s _ _ par hpar d' hgo _ _ _ ih
  | case8 fuel d s _ _ par hpar d' hgo _ _ _ ih =>
    rw [hgo] at ih
    exact ih.up hpar
  | case6 fuel d s _ _ par hpar d' hgo d'' hdir ih =>
    rw [hgo] at ih
    exact (ih.up hpar).trans (createDir_makes hdir)

theorem createDirAll_makes (d : Disk) (s : String) : MakesDirs s d (d.createDirAll s).1 :=
  createDirAll_go_makes _ d s

theorem isDir_of_locate {q : List String} {sl : Bool}
    (h : d.locate true s = .ok (.found q .dir sl)) : d.isDir s = true := by
  simp [isDir, stat, h, Except.bind, Place.node]

theorem locate_of_isDir (h : d.isDir s = true) :
    ∃ q sl, d.locate true s = .ok (.found q .dir sl) := by
  unfold isDir stat at h
  rcases hloc : d.locate true s with e | ⟨q, n, sl⟩ | ⟨q, sl⟩
  · simp [hloc, Except.bind] at h
  · cases n <;> cases sl <;> simp_all [Except.bind, Place.node]
  · simp [hloc, Except.bind, Place.node] at h

/-- A text that leads to a directory still does after a file is rewritten. -/
theorem isDir_rewrites {p : List String} (hr : Rewrites p d d') (h : d.isDir s = true) :
    d'.isDir s = true := by
  obtain ⟨q, sl, hloc⟩ := locate_of_isDir h
  have hadm := admits_of_locateWith hloc
  rw [locate, locateWith_of_admits _ _ _ hadm] at hloc
  refine isDir_of_locate (?_ : d'.locate true s = .ok (.found q .dir sl))
  rw [locate, locateWith_of_admits _ _ _ hadm, base_of_cwd hr.cwd]
  exact walk_off_leaf_dir hr.off hr.leaf _ _ _ _ _ _ _ hloc

/-- A directory just made is where its text leads. -/
theorem createDir_isDir (h : d.createDir s = .ok d') : d'.isDir s = true := by
  obtain ⟨x, hne, -, rfl, hcan⟩ := createDir_ok h
  obtain ⟨n, sl, hloc, -⟩ := found_of_canonicalize hcan
  have hadm := admits_of_locateWith hloc
  have hwalk := hloc
  rw [locate, locateWith_of_admits _ _ _ hadm] at hwalk
  cases n with
  | dir => exact isDir_of_locate hloc
  | file data | link t =>
    have hnode := walk_entry _ _ _ _ _ _ _ hwalk (by simp [Place.entry])
    simp [Place.path, Place.entry, node?_put _ _ hne] at hnode

/-- A text is made when it has no components or leads to a directory: making it again
changes nothing. -/
def Made (d : Disk) (s : String) : Prop := Path.components s = [] ∨ d.isDir s = true

theorem createDirAll_go_made (fuel : Nat) (d : Disk) (s : String) :
    (createDirAll.go fuel d s).2 = none → (createDirAll.go fuel d s).1.Made s := by
  fun_induction createDirAll.go fuel d s with
  | case1 | case4 | case5 | case8 | case10 => simp
  | case2 _ _ _ hcomp => intro _; exact Or.inl hcomp
  | case3 _ _ _ _ _ hdir | case6 _ _ _ _ _ _ _ _ _ _ hdir _ => intro _; exact Or.inr (createDir_isDir hdir)
  | case7 _ _ _ _ _ _ _ _ _ _ _ hisdir _ | case9 _ _ _ _ _ _ _ hisdir => intro _; exact Or.inr hisdir

/-- After making a directory with its parents without a failure, its text is made. -/
theorem createDirAll_made (h : (d.createDirAll s).2 = none) : (d.createDirAll s).1.Made s :=
  createDirAll_go_made _ d s h

/-- Making a directory that is already there changes nothing: the lookup that found it
finds something there however it is asked. -/
theorem createDirAll_of_made (h : d.Made s) : d.createDirAll s = (d, none) := by
  unfold createDirAll
  rcases h with hcomp | hdir
  · simp [createDirAll.go, hcomp]
  obtain ⟨q, sl, hloc⟩ := locate_of_isDir hdir
  have hadm := admits_of_locateWith hloc
  have hexists : d.createDir s = .error .alreadyExists := by
    unfold createDir
    rcases hlast : d.locateLast s with e | ⟨x, n, sl'⟩ | ⟨x, sl'⟩
    · rw [locateLast, locateWith_of_admits _ _ _ hadm] at hlast
      rw [locate, locateWith_of_admits _ _ _ hadm,
        walk_error_flags _ _ _ _ _ _ _ _ hlast rfl rfl] at hloc
      cases hloc
    · rfl
    · rw [locate, locateWith_missing hlast true (wantsDir s)] at hloc
      cases hloc
  simp [createDirAll.go, hexists, hdir]

/-- A copy reads a regular file through the source text and writes one file where the
destination text reaches: the source's bytes, or nothing when it reaches the source. -/
theorem copy_ok {src dst : String} (h : d.copy src dst = .ok d') :
    ∃ data p q, d.locate true src = .ok (.found p (.file data) false) ∧ d.writePlace dst = .ok q ∧
      d' = d.put q (.file (if q = p then [] else data)) := by
  unfold copy at h
  split at h <;> try simp at h
  rename_i p data hsrc
  cases hq : d.writePlace dst with
  | error e => simp [hq] at h
  | ok q =>
    simp only [hq, Except.ok.injEq] at h
    exact ⟨data, p, q, hsrc, rfl, h.symm⟩

end FirmwareStamp.Disk
