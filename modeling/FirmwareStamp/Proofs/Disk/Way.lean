import FirmwareStamp.Proofs.Disk.Frame

/-!
Paths read without links. Where no link stands on the way of a path, its lookup is a
walk down the names of the text from its start, `.` staying and `..` going up, so the
place it ends at and the places it passes are functions of the text and the working
directory alone: `placeOf` and `wayOf`. The lookup then depends only on the nodes on that
way, and a read, a write, a new directory and a removal all act on `placeOf`.
-/

namespace FirmwareStamp.Disk

/-- The place a list of components leads to from `cur`, read without links. -/
def lexPlace : List String → List String → List String
  | cur, [] => cur
  | cur, c :: rest =>
    if c == "." then lexPlace cur rest
    else if c == ".." then lexPlace cur.dropLast rest
    else lexPlace (cur ++ [c]) rest

/-- The places a lookup passes from `cur`, one for each name, read without links. -/
def lexWay : List String → List String → List (List String)
  | _, [] => []
  | cur, c :: rest =>
    if c == "." then lexWay cur rest
    else if c == ".." then lexWay cur.dropLast rest
    else (cur ++ [c]) :: lexWay (cur ++ [c]) rest

theorem lexWay_name {c : String} (h1 : ¬(c == ".") = true) (h2 : ¬(c == "..") = true)
    (cur rest : List String) : lexWay cur (c :: rest) = (cur ++ [c]) :: lexWay (cur ++ [c]) rest := by
  simp [lexWay, h1, h2]

theorem lexWay_dot {c : String} (h : (c == ".") = true) (cur rest : List String) :
    lexWay cur (c :: rest) = lexWay cur rest := by
  simp [lexWay, h]

theorem lexWay_up {c : String} (h1 : ¬(c == ".") = true) (h2 : (c == "..") = true)
    (cur rest : List String) : lexWay cur (c :: rest) = lexWay cur.dropLast rest := by
  simp [lexWay, h1, h2]

theorem lexPlace_name {c : String} (h1 : ¬(c == ".") = true) (h2 : ¬(c == "..") = true)
    (cur rest : List String) : lexPlace cur (c :: rest) = lexPlace (cur ++ [c]) rest := by
  simp [lexPlace, h1, h2]

theorem lexPlace_dot {c : String} (h : (c == ".") = true) (cur rest : List String) :
    lexPlace cur (c :: rest) = lexPlace cur rest := by
  simp [lexPlace, h]

theorem lexPlace_up {c : String} (h1 : ¬(c == ".") = true) (h2 : (c == "..") = true)
    (cur rest : List String) : lexPlace cur (c :: rest) = lexPlace cur.dropLast rest := by
  simp [lexPlace, h1, h2]

/-- The place a path text names on a disk, read without links. -/
def placeOf (d : Disk) (s : String) : List String := lexPlace (d.base s) (pieces s)

/-- The places the lookup of a path text passes, read without links. -/
def wayOf (d : Disk) (s : String) : List (List String) := lexWay (d.base s) (pieces s)

/-- No link stands at any of these places. -/
def NoLinks (d : Disk) (ps : List (List String)) : Prop :=
  ∀ q ∈ ps, ∀ t, d.node? q ≠ some (.link t)

theorem lexWay_append (cur xs ys : List String) :
    lexWay cur (xs ++ ys) = lexWay cur xs ++ lexWay (lexPlace cur xs) ys := by
  induction xs generalizing cur with
  | nil => rfl
  | cons c rest ih =>
    simp only [List.cons_append, lexWay, lexPlace]
    split
    · exact ih cur
    · split
      · exact ih cur.dropLast
      · simp [ih]

theorem placeOf_of_cwd {d d' : Disk} (h : d'.cwd = d.cwd) (s : String) :
    d'.placeOf s = d.placeOf s := by
  simp [placeOf, base_of_cwd h]

theorem wayOf_of_cwd {d d' : Disk} (h : d'.cwd = d.cwd) (s : String) :
    d'.wayOf s = d.wayOf s := by
  simp [wayOf, base_of_cwd h]

/-- Without links on the way, a walk reads only the nodes on the way. -/
theorem walk_congr {d d' : Disk} (f w : Bool) (links : Nat) (cur cs : List String) :
    d.NoLinks (lexWay cur cs) → (∀ q ∈ lexWay cur cs, d'.node? q = d.node? q) →
    d'.walk f w links cur cs = d.walk f w links cur cs := by
  fun_induction d.walk f w links cur cs with
  | case6 _ cur c h1 h2 _ p t hlink _ | case7 _ cur c h1 h2 _ p t hlink _ _ _
  | case8 _ cur c h1 h2 _ p t hlink _ _ _ _ | case9 _ _ cur c h1 h2 _ p t hlink _
  | case17 _ cur c _ _ h1 h2 _ p t hlink | case18 _ cur c _ _ h1 h2 _ p t hlink _ _
  | case19 _ cur c _ _ h1 h2 _ p t hlink _ _ _ =>
    intro hclear
    exact absurd hlink (hclear p (by simp [lexWay, h1, h2, p]) t)
  | case11 _ _ cur c c' rest h ih =>
    intro hclear hsame
    rw [lexWay_dot h] at hclear hsame
    rw [walk, if_pos h]
    exact ih hclear hsame
  | case12 _ _ cur c c' rest h1 h2 ih =>
    intro hclear hsame
    rw [lexWay_up h1 h2] at hclear hsame
    rw [walk, if_neg h1, if_pos h2]
    exact ih hclear hsame
  | case15 _ _ cur c c' rest h1 h2 h3 p hdir ih =>
    intro hclear hsame
    rw [lexWay_name h1 h2] at hclear hsame
    have hp : d'.node? p = some .dir := (hsame p List.mem_cons_self).trans hdir
    rw [walk, if_neg h1, if_neg h2, if_neg h3]
    simp only [p] at hp
    simp only [hp]
    exact ih (fun q hq => hclear q (List.mem_cons_of_mem _ hq))
      (fun q hq => hsame q (List.mem_cons_of_mem _ hq))
  | case1 => simp [walk]
  | case2 | case3 | case4 | case13 =>
    intro _ _
    rw [walk]
    simp_all
  | case5 _ _ cur c h1 h2 h3 p hnode | case10 _ _ cur c h1 h2 h3 p _ _ hnode
  | case14 _ _ cur c _ _ h1 h2 h3 p hnode | case16 _ _ cur c _ _ h1 h2 h3 p _ hnode =>
    intro _ hsame
    rw [lexWay_name h1 h2] at hsame
    have hp := (hsame p List.mem_cons_self).trans hnode
    rw [walk, if_neg h1, if_neg h2, if_neg h3]
    simp only [p] at hp
    simp [hp, p]

/-- Without links on the way, a walk ends at the place the names lead to, as asked; a
walk that did not stop in a directory it was in ends on its way, and the only empty place
of the way is a missing end. -/
theorem walk_lexPlace {d : Disk} (f w : Bool) (links : Nat) (cur cs : List String) (pl : Place) :
    d.NoLinks (lexWay cur cs) → d.walk f w links cur cs = .ok pl →
      pl.path = lexPlace cur cs ∧ pl.slash = w ∧
      (pl.entry ≠ some .dir → pl.path ∈ lexWay cur cs) ∧
      (∀ q ∈ lexWay cur cs, d.node? q = none → q = pl.path ∧ pl.entry = none) := by
  fun_induction d.walk f w links cur cs generalizing pl with
  | case6 _ cur c h1 h2 _ p t hlink _ | case7 _ cur c h1 h2 _ p t hlink _ _ _
  | case8 _ cur c h1 h2 _ p t hlink _ _ _ _ | case9 _ _ cur c h1 h2 _ p t hlink _
  | case17 _ cur c _ _ h1 h2 _ p t hlink | case18 _ cur c _ _ h1 h2 _ p t hlink _ _
  | case19 _ cur c _ _ h1 h2 _ p t hlink _ _ _ =>
    intro hclear
    exact absurd hlink (hclear p (by simp [lexWay, h1, h2, p]) t)
  | case4 | case13 | case14 | case16 => intro _ h; cases h
  | case1 | case2 | case3 =>
    rintro _ ⟨⟩
    simp_all [Place.path, Place.slash, Place.entry, lexPlace, lexWay]
  | case5 _ _ cur c h1 h2 h3 p hnode | case10 _ _ cur c h1 h2 h3 p _ _ hnode =>
    rintro _ ⟨⟩
    simp only [beq_iff_eq] at h1 h2
    simp_all [Place.path, Place.slash, Place.entry, lexPlace, lexWay, p]
  | case11 _ _ cur c c' rest h ih =>
    rw [lexWay_dot h, lexPlace_dot h]
    exact ih pl
  | case12 _ _ cur c c' rest h1 h2 ih =>
    rw [lexWay_up h1 h2, lexPlace_up h1 h2]
    exact ih pl
  | case15 _ _ cur c c' rest h1 h2 h3 p hdir ih =>
    rw [lexWay_name h1 h2, lexPlace_name h1 h2]
    intro hclear hw
    obtain ⟨hpath, hslash, hway, hempty⟩ := ih pl (fun q hq => hclear q (List.mem_cons_of_mem _ hq)) hw
    refine ⟨hpath, hslash, fun he => List.mem_cons_of_mem _ (hway he), ?_⟩
    intro q hq hnone
    rcases List.mem_cons.1 hq with rfl | hq
    · simp [p] at hdir
      simp [hdir] at hnone
    · exact hempty q hq hnone

section Texts

variable {d d' : Disk} {s : String}

/-- Where no link stands on the way of a text, disks that agree on its way look it up
alike. -/
theorem locateWith_congr (hcwd : d'.cwd = d.cwd) (hclear : d.NoLinks (d.wayOf s))
    (hsame : ∀ q ∈ d.wayOf s, d'.node? q = d.node? q) (f w : Bool) :
    d'.locateWith f w s = d.locateWith f w s := by
  unfold locateWith
  simp only [hcwd]
  split
  · rfl
  split
  · rfl
  split
  · rfl
  exact walk_congr _ _ _ _ _ hclear hsame

theorem locate_congr (hcwd : d'.cwd = d.cwd) (hclear : d.NoLinks (d.wayOf s))
    (hsame : ∀ q ∈ d.wayOf s, d'.node? q = d.node? q) (f : Bool) :
    d'.locate f s = d.locate f s :=
  locateWith_congr hcwd hclear hsame f _

theorem readText_congr (hcwd : d'.cwd = d.cwd) (hclear : d.NoLinks (d.wayOf s))
    (hsame : ∀ q ∈ d.wayOf s, d'.node? q = d.node? q) : d'.readText s = d.readText s := by
  simp [readText, readBytes, locate_congr hcwd hclear hsame]

theorem isFile_congr (hcwd : d'.cwd = d.cwd) (hclear : d.NoLinks (d.wayOf s))
    (hsame : ∀ q ∈ d.wayOf s, d'.node? q = d.node? q) : d'.isFile s = d.isFile s := by
  simp [isFile, stat, locate_congr hcwd hclear hsame]

theorem present_congr (hcwd : d'.cwd = d.cwd) (hclear : d.NoLinks (d.wayOf s))
    (hsame : ∀ q ∈ d.wayOf s, d'.node? q = d.node? q) : d'.present s = d.present s := by
  simp [present, stat, locate_congr hcwd hclear hsame]

/-- Without links on the way, a lookup ends at the place the text names. -/
theorem locateWith_place (hclear : d.NoLinks (d.wayOf s)) {f w : Bool} {pl : Place}
    (h : d.locateWith f w s = .ok pl) :
    pl.path = d.placeOf s ∧ pl.slash = w ∧ (pl.entry ≠ some .dir → pl.path ∈ d.wayOf s) ∧
      (pl.entry ≠ some .dir → d.node? pl.path = pl.entry) ∧
      (∀ q ∈ d.wayOf s, d.node? q = none → q = pl.path ∧ pl.entry = none) := by
  rw [locateWith_of_admits _ _ _ (admits_of_locateWith h)] at h
  obtain ⟨hpath, hslash, hway, hempty⟩ := walk_lexPlace _ _ _ _ _ _ hclear h
  exact ⟨hpath, hslash, hway, walk_entry _ _ _ _ _ _ _ h, hempty⟩

/-- A file read through a text is the file at its place, and its whole way is there. -/
theorem readBytes_place (hclear : d.NoLinks (d.wayOf s)) {data : List UInt8}
    (h : d.readBytes s = .ok data) :
    d.node? (d.placeOf s) = some (.file data) ∧ ∀ q ∈ d.wayOf s, d.node? q ≠ none := by
  unfold readBytes at h
  cases hloc : d.locate true s with
  | error e => simp [hloc, Except.bind] at h
  | ok pl =>
    have hfile : pl.entry = some (.file data) := by
      cases pl with
      | found p n sl => cases n <;> cases sl <;> simp_all [Except.bind, Place.node, Place.entry]
      | missing p sl => simp [hloc, Except.bind, Place.node] at h
    obtain ⟨hpath, -, -, hnode, hempty⟩ := locateWith_place hclear hloc
    refine ⟨?_, fun q hq hnone => ?_⟩
    · rw [← hpath, hnode (by simp [hfile]), hfile]
    · simp [(hempty q hq hnone).2] at hfile

/-- Without links on the way, a write lands on the place the text names, which is on its
way and holds a file or nothing. -/
theorem writePlace_place (hclear : d.NoLinks (d.wayOf s)) {p : List String}
    (h : d.writePlace s = .ok p) :
    p = d.placeOf s ∧ p ∈ d.wayOf s ∧ ∀ n, d.node? p = some n → n.opens = false := by
  obtain ⟨pl, hloc, rfl, -, hleaf⟩ := writePlace_ok h
  have hentry : pl.entry ≠ some .dir := fun he => by simpa [Node.opens] using hleaf _ he
  obtain ⟨hpath, -, hway, hnode, -⟩ := locateWith_place hclear hloc
  exact ⟨hpath, hway hentry, fun n hn => hleaf n (by rw [← hnode hentry, hn])⟩

theorem writeText_place (hclear : d.NoLinks (d.wayOf s)) {text : String}
    (h : d.writeText s text = .ok d') :
    d' = d.put (d.placeOf s) (.file text.toByteArray.toList) ∧ d.placeOf s ∈ d.wayOf s ∧
      ∀ n, d.node? (d.placeOf s) = some n → n.opens = false := by
  unfold writeText writeBytes at h
  cases hp : d.writePlace s with
  | error e => simp [hp, Except.map] at h
  | ok p =>
    obtain ⟨rfl, hway, hleaf⟩ := writePlace_place hclear hp
    simp only [hp, Except.map, Except.ok.injEq] at h
    exact ⟨by rw [← h]; simp, hway, hleaf⟩

/-- Without links on the way, a new directory is made at the place the text names, which
was empty. -/
theorem createDir_place (hclear : d.NoLinks (d.wayOf s)) (h : d.createDir s = .ok d') :
    d' = d.put (d.placeOf s) .dir ∧ d.placeOf s ∈ d.wayOf s ∧ d.node? (d.placeOf s) = none := by
  unfold createDir at h
  split at h
  · simp at h
  · rename_i p sl hloc
    simp only [Except.ok.injEq] at h
    obtain ⟨hpath, -, hway, hnode, -⟩ := locateWith_place hclear hloc
    simp only [Place.path, Place.entry, ne_eq, reduceCtorEq, not_false_eq_true, forall_const] at hpath hway hnode
    exact ⟨by rw [← h, hpath], hpath ▸ hway, hpath ▸ hnode⟩
  · simp at h

/-- Without links on the way, a removal takes away what stands at the place the text
names, which is not a directory. -/
theorem removeFile_place (hclear : d.NoLinks (d.wayOf s)) (h : d.removeFile s = .ok d') :
    d' = d.erase (d.placeOf s) ∧ d.placeOf s ∈ d.wayOf s ∧
      ∃ n, d.node? (d.placeOf s) = some n ∧ n ≠ .dir := by
  unfold removeFile at h
  split at h
  · simp at h
  · rename_i p n sl hn hloc
    split at h
    · simp at h
    simp only [Except.ok.injEq] at h
    obtain ⟨hpath, -, hway, hnode, -⟩ := locateWith_place hclear hloc
    have hne : (Place.found p n sl).entry ≠ some .dir := by
      simpa [Place.entry] using hn
    simp only [Place.path] at hpath hway hnode
    refine ⟨by rw [← h, hpath], hpath ▸ hway hne, n, ?_, ?_⟩
    · rw [← hpath, hnode hne]
      rfl
    · simpa using hn
  · simp at h
  · simp at h

end Texts

end FirmwareStamp.Disk
