import FirmwareStamp.Proofs.Disk.Frame

/-!
Lookups through links. A walk that succeeds finds a directory or a link at every place it
passes, and at its end anything or nothing. So a disk that keeps every node of another
gives the same walk wherever the first found something (`walk_grow`), and a disk that
differs from another only at a place holding a file or nothing gives the same walk unless
the walk ends there (`walk_off_leaf`): rewriting one file moves no other lookup, whatever
links stand on the way. Both hold for the lookups of path texts, for reading and for the
physical path a text resolves to. A walk that reached an empty place without following a
final link reaches it however it is asked (`walk_missing_flags`), which is how a directory
made there is then found.
-/

namespace FirmwareStamp.Disk

/-- `d'` has every node `d` has: it only gained entries. -/
structure Grows (d d' : Disk) : Prop where
  cwd : d'.cwd = d.cwd
  keeps : ∀ q n, d.node? q = some n → d'.node? q = some n

/-- `d'` differs from `d` only at `p`, where `d` holds a file or nothing. -/
structure Rewrites (p : List String) (d d' : Disk) : Prop where
  cwd : d'.cwd = d.cwd
  off : ∀ q, q ≠ p → d'.node? q = d.node? q
  leaf : ∀ n, d.node? p = some n → n.opens = false

theorem walk_grow {d d' : Disk} (hkeep : ∀ q n, d.node? q = some n → d'.node? q = some n)
    (f w : Bool) (links : Nat) (cur cs : List String) (pl : Place) :
    d.walk f w links cur cs = .ok pl → pl.entry ≠ none → d'.walk f w links cur cs = .ok pl := by
  fun_induction d.walk f w links cur cs generalizing pl with
  | case4 | case6 | case7 | case13 | case14 | case16 | case17 | case18 => intro h; cases h
  | case5 => rintro ⟨⟩ h; simp [Place.entry] at h
  | case1 | case2 | case3 => intro h _; rw [walk]; simp_all
  | case9 _ _ cur c h1 h2 h3 p t hlink hnf | case10 _ _ cur c h1 h2 h3 p _ _ hlink =>
    intro hw _
    have hp := hkeep _ _ hlink
    rw [walk, if_neg h1, if_neg h2, if_neg h3]
    simp only [p] at hp
    simp_all +zetaDelta
  | case8 _ cur c h1 h2 h3 p t hlink hfw n hempty ih | case15 _ _ cur c _ _ h1 h2 h3 p hlink ih
  | case19 _ cur c _ _ h1 h2 h3 p t hlink n hempty ih =>
    intro hw hpl
    have hp := hkeep _ _ hlink
    rw [walk, if_neg h1, if_neg h2, if_neg h3]
    simp only [p] at hp
    simp_all +zetaDelta
  | case11 _ _ cur c _ _ h ih =>
    intro hw hpl
    rw [walk, if_pos h]
    exact ih pl hw hpl
  | case12 _ _ cur c _ _ h1 h2 ih =>
    intro hw hpl
    rw [walk, if_neg h1, if_pos h2]
    exact ih pl hw hpl

theorem walk_off_leaf {d d' : Disk} {p : List String}
    (hsame : ∀ q, q ≠ p → d'.node? q = d.node? q) (hleaf : ∀ n, d.node? p = some n → n.opens = false)
    (f w : Bool) (links : Nat) (cur cs : List String) (pl : Place) :
    d.walk f w links cur cs = .ok pl → pl.path ≠ p → d'.walk f w links cur cs = .ok pl := by
  fun_induction d.walk f w links cur cs generalizing pl with
  | case4 | case6 | case7 | case13 | case14 | case16 | case17 | case18 => intro h; cases h
  | case1 | case2 | case3 => intro h _; rw [walk]; simp_all
  | case5 _ _ cur c h1 h2 h3 q hnode | case9 _ _ cur c h1 h2 h3 q _ hnode _
  | case10 _ _ cur c h1 h2 h3 q _ _ hnode =>
    rintro ⟨⟩ hq
    have hd := hsame q hq
    rw [walk, if_neg h1, if_neg h2, if_neg h3]
    simp_all +zetaDelta [Place.path]
  | case8 _ cur c h1 h2 h3 q t hnode _ _ _ ih | case15 _ _ cur c _ _ h1 h2 h3 q hnode ih
  | case19 _ cur c _ _ h1 h2 h3 q t hnode _ _ ih =>
    intro hw hpl
    have hq : q ≠ p := by
      rintro rfl
      have hopen := hleaf _ hnode
      simp [Node.opens] at hopen
    have hd := hsame q hq
    rw [walk, if_neg h1, if_neg h2, if_neg h3]
    simp_all +zetaDelta
  | case11 _ _ cur c _ _ h ih =>
    intro hw hpl
    rw [walk, if_pos h]
    exact ih pl hw hpl
  | case12 _ _ cur c _ _ h1 h2 ih =>
    intro hw hpl
    rw [walk, if_neg h1, if_pos h2]
    exact ih pl hw hpl

/-- A walk that reached an empty place without following a final link and without asking
for a directory reaches it however it is asked: the flags matter only at a final link. -/
theorem walk_missing_flags {d : Disk} (f w : Bool) (links : Nat) (cur cs x : List String)
    (sl : Bool) (f' w' : Bool) :
    d.walk f w links cur cs = .ok (.missing x sl) → f = false → w = false →
      d.walk f' w' links cur cs = .ok (.missing x w') := by
  fun_induction d.walk f w links cur cs with
  | case4 | case6 | case7 | case13 | case14 | case16 | case17 | case18 => intro h; cases h
  | case1 | case2 | case3 | case9 | case10 => intro h; cases h
  | case5 _ _ cur c h1 h2 h3 q hnode =>
    intro h _ _
    simp only [Except.ok.injEq, Place.missing.injEq] at h
    obtain ⟨rfl, -⟩ := h
    rw [walk, if_neg h1, if_neg h2, if_neg h3]
    simp_all +zetaDelta
  | case8 => intro _ hf hw; simp_all
  | case15 _ _ cur c _ _ h1 h2 h3 q hnode ih | case19 _ cur c _ _ h1 h2 h3 q t hnode _ _ ih =>
    intro hw hf hw'
    rw [walk, if_neg h1, if_neg h2, if_neg h3]
    simp_all +zetaDelta
  | case11 _ _ cur c _ _ h ih =>
    intro hw hf hw'
    rw [walk, if_pos h]
    exact ih hw hf hw'
  | case12 _ _ cur c _ _ h1 h2 ih =>
    intro hw hf hw'
    rw [walk, if_neg h1, if_pos h2]
    exact ih hw hf hw'

/-- A walk that neither follows a final link nor asks for a directory fails only where
every walk fails: the flags matter only at a final link. -/
theorem walk_error_flags {d : Disk} (f w : Bool) (links : Nat) (cur cs : List String)
    (e : IoError) (f' w' : Bool) :
    d.walk f w links cur cs = .error e → f = false → w = false →
      d.walk f' w' links cur cs = .error e := by
  fun_induction d.walk f w links cur cs with
  | case1 | case2 | case3 | case5 | case9 | case10 => intro h; cases h
  | case6 | case7 | case8 => intro _ hf hw; simp_all
  | case4 _ _ cur c h1 h2 h3 =>
    intro h _ _
    rw [walk, if_neg h1, if_neg h2, if_pos h3]
    exact h
  | case13 _ _ cur c _ _ h1 h2 h3 =>
    intro h _ _
    rw [walk, if_neg h1, if_neg h2, if_pos h3]
    exact h
  | case14 _ _ cur c _ _ h1 h2 h3 q hnode | case16 _ _ cur c _ _ h1 h2 h3 q _ hnode
  | case17 _ cur c _ _ h1 h2 h3 q _ hnode | case18 _ cur c _ _ h1 h2 h3 q _ hnode _ _ =>
    intro h _ _
    rw [walk, if_neg h1, if_neg h2, if_neg h3]
    simp_all +zetaDelta
  | case15 _ _ cur c _ _ h1 h2 h3 q hnode ih | case19 _ cur c _ _ h1 h2 h3 q t hnode _ _ ih =>
    intro hw hf hw'
    rw [walk, if_neg h1, if_neg h2, if_neg h3]
    simp_all +zetaDelta
  | case11 _ _ cur c _ _ h ih =>
    intro hw hf hw'
    rw [walk, if_pos h]
    exact ih hw hf hw'
  | case12 _ _ cur c _ _ h1 h2 ih =>
    intro hw hf hw'
    rw [walk, if_neg h1, if_pos h2]
    exact ih hw hf hw'

/-- A walk that ends at a directory ends there again on a disk that differs only at a place
holding a file or nothing: the directory it ends at is not that place, nor is anything
it passes. -/
theorem walk_off_leaf_dir {d d' : Disk} {p : List String}
    (hsame : ∀ q, q ≠ p → d'.node? q = d.node? q) (hleaf : ∀ n, d.node? p = some n → n.opens = false)
    (f w : Bool) (links : Nat) (cur cs : List String) (q : List String) (sl : Bool) :
    d.walk f w links cur cs = .ok (.found q .dir sl) →
      d'.walk f w links cur cs = .ok (.found q .dir sl) := by
  fun_induction d.walk f w links cur cs with
  | case4 | case6 | case7 | case13 | case14 | case16 | case17 | case18 => intro h; cases h
  | case5 | case9 => intro h; simp at h
  | case1 | case2 | case3 => intro h; rw [walk]; simp_all
  | case10 _ _ cur c h1 h2 h3 x n _ hnode =>
    intro h
    have hn : n = .dir := by
      simp only [Except.ok.injEq, Place.found.injEq] at h
      exact h.2.1
    subst hn
    have hx : x ≠ p := by
      rintro rfl
      simpa [Node.opens] using hleaf _ hnode
    have hd := hsame x hx
    rw [walk, if_neg h1, if_neg h2, if_neg h3]
    simp_all +zetaDelta
  | case8 _ cur c h1 h2 h3 x t hnode _ _ _ ih | case15 _ _ cur c _ _ h1 h2 h3 x hnode ih
  | case19 _ cur c _ _ h1 h2 h3 x t hnode _ _ ih =>
    intro hw
    have hx : x ≠ p := by
      rintro rfl
      have hopen := hleaf _ hnode
      simp [Node.opens] at hopen
    have hd := hsame x hx
    rw [walk, if_neg h1, if_neg h2, if_neg h3]
    simp_all +zetaDelta
  | case11 _ _ cur c _ _ h ih =>
    intro hw
    rw [walk, if_pos h]
    exact ih hw
  | case12 _ _ cur c _ _ h1 h2 ih =>
    intro hw
    rw [walk, if_neg h1, if_pos h2]
    exact ih hw

namespace Grows

variable {d d' d'' : Disk}

theorem refl (d : Disk) : Grows d d := ⟨rfl, fun _ _ h => h⟩

theorem trans (h : Grows d d') (h' : Grows d' d'') : Grows d d'' :=
  ⟨h'.cwd.trans h.cwd, fun q n hq => h'.keeps q n (h.keeps q n hq)⟩

end Grows

theorem grows_put {d : Disk} {p : List String} (hp : p ≠ []) (hnone : d.node? p = none)
    (n : Node) : Grows d (d.put p n) := by
  refine ⟨put_cwd _ _ _, fun q m hq => ?_⟩
  rw [node?_put _ _ hp, if_neg]
  · exact hq
  · rintro rfl
    simp [hnone] at hq

/-- Writing a file where a file or nothing was rewrites that place, both ways. -/
theorem rewrites_put {d : Disk} {p : List String} (hp : p ≠ [])
    (hleaf : ∀ n, d.node? p = some n → n.opens = false) (data : List UInt8) :
    Rewrites p d (d.put p (.file data)) ∧ Rewrites p (d.put p (.file data)) d := by
  have hoff : ∀ q, q ≠ p → (d.put p (.file data)).node? q = d.node? q := fun q hq => by
    rw [node?_put _ _ hp, if_neg hq]
  refine ⟨⟨put_cwd _ _ _, hoff, hleaf⟩, ⟨(put_cwd _ _ _).symm, fun q hq => (hoff q hq).symm, ?_⟩⟩
  intro n hn
  rw [node?_put _ _ hp, if_pos rfl] at hn
  cases hn
  rfl

section Texts

variable {d d' : Disk} {s : String}

theorem locateWith_grow (hg : Grows d d') {f w : Bool} {pl : Place}
    (h : d.locateWith f w s = .ok pl) (hpl : pl.entry ≠ none) : d'.locateWith f w s = .ok pl := by
  have hadm := admits_of_locateWith h
  rw [locateWith_of_admits _ _ _ hadm] at h ⊢
  rw [base_of_cwd hg.cwd]
  exact walk_grow hg.keeps _ _ _ _ _ _ h hpl

theorem locateWith_rewrites {p : List String} (hr : Rewrites p d d') {f w : Bool} {pl : Place}
    (h : d.locateWith f w s = .ok pl) (hpl : pl.path ≠ p) : d'.locateWith f w s = .ok pl := by
  have hadm := admits_of_locateWith h
  rw [locateWith_of_admits _ _ _ hadm] at h ⊢
  rw [base_of_cwd hr.cwd]
  exact walk_off_leaf hr.off hr.leaf _ _ _ _ _ _ h hpl

/-- A file read through a text is found, not asked for as a directory. -/
theorem locate_of_readBytes {data : List UInt8} (h : d.readBytes s = .ok data) :
    ∃ q, d.locate true s = .ok (.found q (.file data) false) := by
  unfold readBytes at h
  rcases hloc : d.locate true s with e | ⟨q, n, sl⟩ | ⟨q, sl⟩
  · simp [hloc, Except.bind] at h
  · cases n <;> cases sl <;> simp_all [Except.bind, Place.node]
  · simp [hloc, Except.bind, Place.node] at h

theorem readBytes_of_locate {q : List String} {data : List UInt8}
    (h : d.locate true s = .ok (.found q (.file data) false)) : d.readBytes s = .ok data := by
  simp [readBytes, h, Except.bind, Place.node]

theorem isFile_of_locate {q : List String} {data : List UInt8}
    (h : d.locate true s = .ok (.found q (.file data) false)) : d.isFile s = true := by
  simp [isFile, stat, h, Except.bind, Place.node]

theorem canonicalize_of_locate {q : List String} {n : Node}
    (h : d.locate true s = .ok (.found q n false)) : d.canonicalize s = .ok q := by
  simp [canonicalize, h]

theorem canonicalize_of_readBytes {data : List UInt8} (h : d.readBytes s = .ok data) :
    ∃ q, d.canonicalize s = .ok q ∧ d.locate true s = .ok (.found q (.file data) false) := by
  obtain ⟨q, hloc⟩ := locate_of_readBytes h
  exact ⟨q, canonicalize_of_locate hloc, hloc⟩

/-- A read that does not resolve to the rewritten place reads the same. -/
theorem readBytes_rewrites {p : List String} (hr : Rewrites p d d') {data : List UInt8}
    (h : d.readBytes s = .ok data) (hoff : d.canonicalize s ≠ .ok p) : d'.readBytes s = .ok data := by
  obtain ⟨q, hq, hloc⟩ := canonicalize_of_readBytes h
  have hne : q ≠ p := fun h' => hoff (h' ▸ hq)
  exact readBytes_of_locate (locateWith_rewrites hr hloc hne)

/-- A text resolves to the place its lookup found, and to it on every disk where the
lookup finds the same. -/
theorem found_of_canonicalize {q : List String} (h : d.canonicalize s = .ok q) :
    ∃ n sl, d.locate true s = .ok (.found q n sl) ∧
      ∀ d' : Disk, d'.locate true s = .ok (.found q n sl) → d'.canonicalize s = .ok q := by
  unfold canonicalize at h
  rcases hloc : d.locate true s with e | ⟨q', n, sl⟩ | ⟨q', sl⟩
  · simp [hloc] at h
  · rw [hloc] at h
    have hq' : q' = q := by cases n <;> cases sl <;> simp_all
    subst hq'
    refine ⟨n, sl, rfl, fun d' hloc' => ?_⟩
    unfold canonicalize
    rw [hloc']
    exact h
  · simp [hloc] at h

theorem canonicalize_grow (hg : Grows d d') {q : List String} (h : d.canonicalize s = .ok q) :
    d'.canonicalize s = .ok q := by
  obtain ⟨n, sl, hloc, hlift⟩ := found_of_canonicalize h
  exact hlift d' (locateWith_grow hg hloc (by simp [Place.entry]))

/-- A text that does not resolve to the rewritten place resolves as before. -/
theorem canonicalize_rewrites {p : List String} (hr : Rewrites p d d') {q : List String}
    (h : d.canonicalize s = .ok q) (hq : q ≠ p) : d'.canonicalize s = .ok q := by
  obtain ⟨n, sl, hloc, hlift⟩ := found_of_canonicalize h
  exact hlift d' (locateWith_rewrites hr hloc hq)

end Texts

end FirmwareStamp.Disk
