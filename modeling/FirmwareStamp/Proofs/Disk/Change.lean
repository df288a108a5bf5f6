import FirmwareStamp.Proofs.Disk.Way
import FirmwareStamp.Proofs.Path.Parent

/-!
What the steps on a disk change. A step keeps the working directory, makes no link, and
off a few places it touches keeps every node, except that it may make directories at
empty places of some ways: that is `Within`. Such steps compose, and a lookup through a
way that kept its nodes finds again what it found. Writing a file touches the place of
its text only; removing one likewise; making a directory with its parents only makes
directories on the way of the text, also when it fails halfway.
-/

namespace FirmwareStamp.Disk

/-- Without links on the way, a walk that found a node finds it again on a disk that keeps
every node of the way. -/
theorem walk_keep {d d' : Disk} (f w : Bool) (links : Nat) (cur cs : List String) (pl : Place) :
    d.NoLinks (lexWay cur cs) →
    (∀ q ∈ lexWay cur cs, ∀ n, d.node? q = some n → d'.node? q = some n) →
    d.walk f w links cur cs = .ok pl → pl.entry ≠ none → d'.walk f w links cur cs = .ok pl := by
  fun_induction d.walk f w links cur cs generalizing pl with
  | case6 _ cur c h1 h2 _ p t hlink _ | case7 _ cur c h1 h2 _ p t hlink _ _ _
  | case8 _ cur c h1 h2 _ p t hlink _ _ _ _ | case9 _ _ cur c h1 h2 _ p t hlink _
  | case17 _ cur c _ _ h1 h2 _ p t hlink | case18 _ cur c _ _ h1 h2 _ p t hlink _ _
  | case19 _ cur c _ _ h1 h2 _ p t hlink _ _ _ =>
    intro hclear
    exact absurd hlink (hclear p (by simp [lexWay, h1, h2, p]) t)
  | case4 | case13 | case14 | case16 => intro _ _ h; cases h
  | case1 | case2 | case3 =>
    intro _ _ hw _
    rw [walk]
    simp_all
  | case5 => 
    rintro _ _ ⟨⟩
    simp [Place.entry]
  | case10 _ _ cur c h1 h2 h3 p _ _ hnode =>
    rintro _ hkeep ⟨⟩ _
    rw [lexWay_name h1 h2] at hkeep
    have hp := hkeep p List.mem_cons_self _ hnode
    rw [walk, if_neg h1, if_neg h2, if_neg h3]
    simp only [p] at hp
    simp [hp, p]
  | case11 _ _ cur c c' rest h ih =>
    intro hclear hkeep
    rw [lexWay_dot h] at hclear hkeep
    rw [walk, if_pos h]
    exact ih pl hclear hkeep
  | case12 _ _ cur c c' rest h1 h2 ih =>
    intro hclear hkeep
    rw [lexWay_up h1 h2] at hclear hkeep
    rw [walk, if_neg h1, if_pos h2]
    exact ih pl hclear hkeep
  | case15 _ _ cur c c' rest h1 h2 h3 p hdir ih =>
    intro hclear hkeep
    rw [lexWay_name h1 h2] at hclear hkeep
    have hp : d'.node? p = some .dir := hkeep p List.mem_cons_self _ hdir
    rw [walk, if_neg h1, if_neg h2, if_neg h3]
    simp only [p] at hp
    simp only [hp]
    exact ih pl (fun q hq => hclear q (List.mem_cons_of_mem _ hq))
      (fun q hq => hkeep q (List.mem_cons_of_mem _ hq))

/-- How a step may change a disk: the working directory stays and no link appears; off
the places `spots` every node stays, or a directory appears at an empty place of `ways`. -/
structure Within (spots ways : List (List String)) (d d' : Disk) : Prop where
  cwd : d'.cwd = d.cwd
  links : ∀ q t, d'.node? q = some (.link t) → d.node? q = some (.link t)
  rest : ∀ q, q ∉ spots →
    d'.node? q = d.node? q ∨ (q ∈ ways ∧ d.node? q = none ∧ d'.node? q = some .dir)

namespace Within

variable {spots ways spots' ways' : List (List String)} {d d' d'' : Disk}

theorem refl (spots ways : List (List String)) (d : Disk) : Within spots ways d d :=
  ⟨rfl, fun _ _ h => h, fun _ _ => Or.inl rfl⟩

theorem trans (h : Within spots ways d d') (h' : Within spots' ways' d' d'') :
    Within (spots ++ spots') (ways ++ ways') d d'' := by
  refine ⟨h'.cwd.trans h.cwd, fun q t hq => h.links q t (h'.links q t hq), ?_⟩
  intro q hq
  simp only [List.mem_append, not_or] at hq
  rcases h.rest q hq.1 with h1 | ⟨hw, hnone, hdir⟩ <;>
    rcases h'.rest q hq.2 with h2 | ⟨hw', hnone', hdir'⟩
  · exact Or.inl (h2.trans h1)
  · exact Or.inr ⟨List.mem_append_right _ hw', h1 ▸ hnone', hdir'⟩
  · exact Or.inr ⟨List.mem_append_left _ hw, hnone, h2.trans hdir⟩
  · simp [hdir] at hnone'

theorem mono (hs : spots ⊆ spots') (hw : ways ⊆ ways') (h : Within spots ways d d') :
    Within spots' ways' d d' :=
  ⟨h.cwd, h.links, fun q hq =>
    (h.rest q fun h' => hq (hs h')).imp_right fun ⟨h1, h2, h3⟩ => ⟨hw h1, h2, h3⟩⟩

theorem node?_eq (h : Within spots ways d d') {q : List String} (hs : q ∉ spots)
    (hw : q ∉ ways) : d'.node? q = d.node? q :=
  (h.rest q hs).resolve_right fun ⟨h1, _, _⟩ => hw h1

theorem keeps (h : Within spots ways d d') {q : List String} {n : Node} (hs : q ∉ spots)
    (hq : d.node? q = some n) : d'.node? q = some n := by
  rcases h.rest q hs with h1 | ⟨-, hnone, -⟩
  · rw [h1, hq]
  · simp [hq] at hnone

theorem noLinks (h : Within spots ways d d') {ps : List (List String)} (hps : d.NoLinks ps) :
    d'.NoLinks ps :=
  fun q hq t hl => hps q hq t (h.links q t hl)

/-- A path text that leads without links still does: the working directory is kept. -/
theorem noLinks_wayOf (h : Within spots ways d d') {s : String} (hclear : d.NoLinks (d.wayOf s)) :
    d'.NoLinks (d'.wayOf s) :=
  wayOf_of_cwd h.cwd s ▸ h.noLinks hclear

end Within

theorem within_put {d : Disk} {p : List String} {n : Node} (hp : p ≠ [])
    (hn : ∀ t, n ≠ .link t) : Within [p] [] d (d.put p n) := by
  refine ⟨put_cwd _ _ _, fun q t hq => ?_, fun q hq => Or.inl ?_⟩
  · rw [node?_put _ _ hp] at hq
    split at hq
    · exact absurd (Option.some.inj hq) (hn t)
    · exact hq
  · rw [node?_put _ _ hp, if_neg (by simpa using hq)]

theorem within_put_dir {d : Disk} {p : List String} (hp : p ≠ []) (hnone : d.node? p = none) :
    Within [] [p] d (d.put p .dir) := by
  refine ⟨put_cwd _ _ _, fun q t hq => ?_, fun q _ => ?_⟩
  · rw [node?_put _ _ hp] at hq
    split at hq
    · simp at hq
    · exact hq
  · rw [node?_put _ _ hp]
    split
    · subst q
      exact Or.inr ⟨List.mem_singleton_self _, hnone, rfl⟩
    · exact Or.inl rfl

theorem within_erase (d : Disk) (p : List String) : Within [p] [] d (d.erase p) := by
  refine ⟨erase_cwd _ _, fun q t hq => ?_, fun q hq => Or.inl ?_⟩
  · rw [node?_erase] at hq
    split at hq
    · simp at hq
    · exact hq
  · rw [node?_erase, if_neg (by simp_all)]

section Keep

variable {d d' : Disk} {s : String}

/-- Every node on the way of a text that `d` has, `d'` has too. -/
def KeepsWay (d d' : Disk) (s : String) : Prop :=
  d'.cwd = d.cwd ∧ ∀ q ∈ d.wayOf s, ∀ n, d.node? q = some n → d'.node? q = some n

theorem Within.keepsWay {spots ways : List (List String)} (h : Within spots ways d d')
    (hoff : ∀ q ∈ d.wayOf s, q ∉ spots) : KeepsWay d d' s :=
  ⟨h.cwd, fun q hq _ hn => h.keeps (hoff q hq) hn⟩

/-- Without links on the way, a lookup that found a node finds it again on a disk that
keeps the way. -/
theorem locateWith_keep (hclear : d.NoLinks (d.wayOf s)) (hkeep : KeepsWay d d' s)
    {f w : Bool} {pl : Place} (h : d.locateWith f w s = .ok pl) (hpl : pl.entry ≠ none) :
    d'.locateWith f w s = .ok pl := by
  have hadm := admits_of_locateWith h
  rw [locateWith_of_admits _ _ _ hadm] at h ⊢
  rw [base_of_cwd hkeep.1]
  exact walk_keep _ _ _ _ _ _ hclear hkeep.2 h hpl

theorem readBytes_keep (hclear : d.NoLinks (d.wayOf s)) (hkeep : KeepsWay d d' s)
    {data : List UInt8} (h : d.readBytes s = .ok data) : d'.readBytes s = .ok data := by
  unfold readBytes at h ⊢
  cases hloc : d.locate true s with
  | error e => simp [hloc, Except.bind] at h
  | ok pl =>
    have hfound : pl.entry ≠ none := by
      cases pl with
      | found p n sl => simp [Place.entry]
      | missing p sl => simp [hloc, Except.bind, Place.node] at h
    rw [locate, locateWith_keep hclear hkeep hloc hfound]
    rwa [hloc] at h

theorem readText_keep (hclear : d.NoLinks (d.wayOf s)) (hkeep : KeepsWay d d' s)
    {text : String} (h : d.readText s = .ok text) : d'.readText s = .ok text := by
  unfold readText at h ⊢
  cases hb : d.readBytes s with
  | error e => simp [hb] at h
  | ok data => rwa [readBytes_keep hclear hkeep hb, ← hb]

theorem isFile_keep (hclear : d.NoLinks (d.wayOf s)) (hkeep : KeepsWay d d' s)
    (h : d.isFile s = true) : d'.isFile s = true := by
  unfold isFile stat at h ⊢
  cases hloc : d.locate true s with
  | error e => simp [hloc, Except.bind] at h
  | ok pl =>
    have hfound : pl.entry ≠ none := by
      cases pl with
      | found p n sl => simp [Place.entry]
      | missing p sl => simp [hloc, Except.bind, Place.node] at h
    rw [locate, locateWith_keep hclear hkeep hloc hfound]
    rwa [hloc] at h

end Keep

theorem wayOf_parent (d : Disk) {s t : String} (h : Path.parent? s = some t) :
    ∀ q ∈ d.wayOf t, q ∈ d.wayOf s := by
  by_cases ht : t = ""
  · subst ht
    simp [wayOf, pieces, Version.splitAt, lexWay]
  obtain ⟨rest, hrest⟩ := Path.pieces_of_parent? h
  have hbase : d.base t = d.base s := by simp [base, Path.hasRoot_of_parent? h ht]
  intro q hq
  rw [wayOf, hrest, lexWay_append, ← hbase]
  exact List.mem_append_left _ hq

/-- Without links on the way, a new directory is one more directory on the way. -/
theorem createDir_within {d d' : Disk} {s : String} (hclear : d.NoLinks (d.wayOf s))
    (h : d.createDir s = .ok d') : Within [] (d.wayOf s) d d' := by
  obtain ⟨rfl, hway, hnone⟩ := createDir_place hclear h
  have hne : d.placeOf s ≠ [] := fun hnil => by simp [hnil] at hnone
  exact (within_put_dir hne hnone).mono (List.Subset.refl _) (List.cons_subset.2 ⟨hway, List.nil_subset _⟩)

/-- Without links on the way, making a directory with its parents makes directories at
empty places of the way and changes nothing else, also when it fails halfway. -/
theorem createDirAll_go_within (fuel : Nat) (d : Disk) (s : String) :
    d.NoLinks (d.wayOf s) → Within [] (d.wayOf s) d (createDirAll.go fuel d s).1 := by
  fun_induction createDirAll.go fuel d s with
  | case1 | case2 | case4 | case9 | case10 => intro _; exact Within.refl _ _ _
  | case3 _ d s _ d' hdir => intro hclear; exact createDir_within hclear hdir
  | case5 fuel d s _ _ par hpar d' e hgo ih | case7 fuel d s _ _ par hpar d' hgo _ _ _ ih
  | case8 fuel d s _ _ par hpar d' hgo _ _ _ ih =>
    intro hclear
    rw [hgo] at ih
    exact (ih fun q hq => hclear q (wayOf_parent d hpar q hq)).mono
      (List.Subset.refl _) (wayOf_parent d hpar)
  | case6 fuel d s _ _ par hpar d' hgo d'' hdir ih =>
    intro hclear
    rw [hgo] at ih
    have hparent := ih fun q hq => hclear q (wayOf_parent d hpar q hq)
    have hsame : d'.wayOf s = d.wayOf s := wayOf_of_cwd hparent.cwd s
    have hlast := createDir_within (hsame ▸ hparent.noLinks hclear) hdir
    rw [hsame] at hlast
    exact (hparent.trans hlast).mono (by simp)
      (List.append_subset.2 ⟨wayOf_parent d hpar, List.Subset.refl _⟩)
theorem createDirAll_within {d : Disk} {s : String} (hclear : d.NoLinks (d.wayOf s)) :
    Within [] (d.wayOf s) d (d.createDirAll s).1 :=
  createDirAll_go_within _ d s hclear

/-- Without links on the way, a written file is the only change, at the place of the
text. -/
theorem writeText_within {d d' : Disk} {s text : String} (hclear : d.NoLinks (d.wayOf s))
    (h : d.writeText s text = .ok d') :
    Within [d.placeOf s] [] d d' ∧ d'.node? (d.placeOf s) = some (.file text.toByteArray.toList) := by
  obtain ⟨rfl, -, hleaf⟩ := writeText_place hclear h
  have hne : d.placeOf s ≠ [] := fun hnil => by
    simpa [Node.opens] using hleaf .dir (by rw [hnil, node?_nil])
  refine ⟨within_put hne (fun t => by simp), ?_⟩
  simp [node?_put _ _ hne]

/-- Without links on the way, a removal empties the place of the text, which held
something other than a directory, and changes nothing else. -/
theorem removeFile_within {d d' : Disk} {s : String} (hclear : d.NoLinks (d.wayOf s))
    (h : d.removeFile s = .ok d') :
    Within [d.placeOf s] [] d d' ∧ d'.node? (d.placeOf s) = none ∧
      ∃ n, d.node? (d.placeOf s) = some n ∧ n ≠ .dir := by
  obtain ⟨rfl, -, n, hn, hdir⟩ := removeFile_place hclear h
  have hne : d.placeOf s ≠ [] := fun hnil => by
    rw [hnil, node?_nil] at hn
    exact hdir (Option.some.inj hn).symm
  exact ⟨within_erase _ _, by simp [node?_erase, hne], n, hn, hdir⟩

/-- Without links on the way, a file removed is not found by a second removal. -/
theorem removeFile_again {d d' : Disk} {s : String} (hclear : d.NoLinks (d.wayOf s))
    (h : d.removeFile s = .ok d') : d'.removeFile s = .error .notFound := by
  unfold removeFile at h
  split at h
  · cases h
  · rename_i p n sl hn hloc
    split at h
    · cases h
    obtain rfl : d.erase p = d' := Except.ok.inj h
    obtain ⟨-, -, hway, hnode, -⟩ := locateWith_place hclear hloc
    have hne : (Place.found p n sl).entry ≠ some .dir := by simpa [Place.entry] using hn
    have hp : d.node? p = some n := hnode hne
    have hopen : n.opens = false := by
      cases n with
      | dir => exact absurd rfl hn
      | file => rfl
      | link t => exact absurd hp (hclear p (hway hne) t)
    have hroot : p ≠ [] := by
      rintro rfl
      rw [node?_nil] at hp
      exact hn (Option.some.inj hp).symm
    have hkeep : ∀ q m, d.node? q = some m → m.opens = true → (d.erase p).node? q = some m := by
      intro q m hq hm
      rw [node?_erase, if_neg]
      · exact hq
      · rintro ⟨rfl, -⟩
        rw [hp] at hq
        cases hq
        simp [hopen] at hm
    have hadm := admits_of_locateWith hloc
    rw [locateLast, locateWith_of_admits _ _ _ hadm] at hloc
    have hwalk := walk_vacate hkeep _ _ _ _ _ _ hloc hne (by simp [Place.path, node?_erase, hroot])
    simp only [Place.path, Place.slash] at hwalk
    simp [removeFile, locateLast, locateWith_of_admits _ _ _ hadm, base_of_cwd (erase_cwd _ _),
      hwalk]
  · cases h
  · cases h

end FirmwareStamp.Disk
