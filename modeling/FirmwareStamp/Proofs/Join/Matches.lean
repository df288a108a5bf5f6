import FirmwareStamp.Proofs.Join.Walk
import FirmwareStamp.Proofs.Join.Aggregate

/-!
Which files a mask picks. A mask that names a file is that file; otherwise its components
are matched one by one from the source directory (the root for a mask with a root), `.`
dropped: a plain name or `..` matches itself, a pattern matches a name the directory lists
and the pattern accepts, and `**` matches any number of names, each a real directory the
directory reached lists (`Follows`). A path is picked exactly when it is a regular file so
reached. The walk is first tied to the same rules over compiled segments (`Picks`): a file
it reports was reached so, and a file reached so is reported, since a file reached through
a name shows that the name led somewhere, and since on a proper disk `**` enters every real
directory listed. Compiling a mask fails exactly on a pattern component that does not
read; otherwise each component gives its segment.
-/

namespace FirmwareStamp.Join

open Disk

variable {d : Disk}

/-- The text reached from a directory text through names, joined one after another. -/
def joinAll (dir : String) (names : List String) : String := names.foldl Path.join dir

/-- A name segment holds a plain name; the other segments hold none. -/
def Segment.Plain : Segment → Prop
  | .literal n => Path.Plain n
  | _ => True

/-- `names` is a way from `dir` through the segments: a name is taken as it is, a pattern
takes a listed name it matches, and `**` takes listed real directories, none or more. -/
inductive Picks (d : Disk) : String → List Segment → List String → Prop
  | nil {dir : String} : Picks d dir [] []
  | literal {dir n : String} {rest : List Segment} {names : List String} :
      Picks d (Path.join dir n) rest names → Picks d dir (.literal n :: rest) (n :: names)
  | pattern {dir : String} {p : Glob.Pattern} {rest : List Segment} {names : List String}
      {e : String × Node} :
      e ∈ listDir d dir → p.matchName e.1 = true → Picks d (Path.join dir e.1) rest names →
      Picks d dir (.pattern p :: rest) (e.1 :: names)
  | stay {dir : String} {rest : List Segment} {names : List String} :
      Picks d dir rest names → Picks d dir (.recursive :: rest) names
  | descend {dir : String} {rest : List Segment} {names : List String} {e : String × Node} :
      e ∈ listDir d dir → e.2 = .dir → Picks d (Path.join dir e.1) (.recursive :: rest) names →
      Picks d dir (.recursive :: rest) (e.1 :: names)

theorem joinAll_cons (dir n : String) (names : List String) :
    joinAll dir (n :: names) = joinAll (Path.join dir n) names := rfl

theorem join_ne_empty {n : String} (h : Path.Plain n) (dir : String) : Path.join dir n ≠ "" := by
  intro hj
  have hp := pieces_join h dir
  rw [hj] at hp
  simp [pieces, Version.splitAt] at hp

theorem plain_of_listDir (hd : d.Proper) {dir : String} {e : String × Node}
    (he : e ∈ listDir d dir) : Path.Plain e.1 := by
  obtain ⟨p, sl, -, hc⟩ := mem_listDir he
  exact (hd.properName_of_children hc).1

/-- The names of a way are plain: names of segments, and names a proper disk lists. -/
theorem Picks.plain (hd : d.Proper) {dir : String} {segments : List Segment}
    {names : List String} (h : Picks d dir segments names) :
    (∀ s ∈ segments, s.Plain) → ∀ c ∈ names, Path.Plain c := by
  induction h with
  | nil => simp
  | literal _ ih =>
    intro hseg c hc
    rcases List.mem_cons.1 hc with rfl | hc
    · exact hseg _ List.mem_cons_self
    · exact ih (List.forall_mem_cons.1 hseg).2 c hc
  | pattern he _ _ ih =>
    intro hseg c hc
    rcases List.mem_cons.1 hc with rfl | hc
    · exact plain_of_listDir hd he
    · exact ih (List.forall_mem_cons.1 hseg).2 c hc
  | stay _ ih =>
    intro hseg
    exact ih (List.forall_mem_cons.1 hseg).2
  | descend he _ _ ih =>
    intro hseg c hc
    rcases List.mem_cons.1 hc with rfl | hc
    · exact plain_of_listDir hd he
    · exact ih hseg c hc

/-- A regular file reached through plain names shows that the text they start from leads
somewhere. -/
theorem present_of_joinAll {t : String} {names : List String} (hplain : ∀ c ∈ names, Path.Plain c)
    (ht : t ≠ "") (h : d.isFile (joinAll t names) = true) : d.present t = true := by
  induction names generalizing t with
  | nil => exact present_of_isFile h
  | cons c names ih =>
    have hc := hplain c List.mem_cons_self
    have hnext := ih (fun c' hc' => hplain c' (List.mem_cons_of_mem _ hc')) (join_ne_empty hc t) h
    exact present_of_join hc ht hnext

/-- What the walk reports is a regular file reached along a way. -/
theorem picks_of_mem_walk {dir : String} {segments : List Segment} {q : String}
    (hq : q ∈ walk d dir segments) :
    d.isFile q = true ∧ ∃ names, Picks d dir segments names ∧ q = joinAll dir names := by
  fun_induction walk d dir segments with
  | case1 dir hf =>
    obtain rfl := List.mem_singleton.1 hq
    exact ⟨hf, [], .nil, rfl⟩
  | case2 => cases hq
  | case3 dir n rest next hp ih =>
    obtain ⟨hf, names, hpick, rfl⟩ := ih hq
    exact ⟨hf, n :: names, .literal hpick, rfl⟩
  | case4 => cases hq
  | case5 dir p rest ih =>
    obtain ⟨e, he, hqe⟩ := List.mem_flatMap.1 hq
    split at hqe
    · rename_i hm
      obtain ⟨hf, names, hpick, rfl⟩ := ih e hqe
      exact ⟨hf, e.1 :: names, .pattern he hm hpick, rfl⟩
    · cases hqe
  | case6 dir rest ihere ih =>
    rcases List.mem_append.1 hq with hq | hq
    · obtain ⟨hf, names, hpick, rfl⟩ := ihere hq
      exact ⟨hf, names, .stay hpick, rfl⟩
    · obtain ⟨e, he, hqe⟩ := List.mem_flatMap.1 hq
      split at hqe
      · rename_i hdeep
        obtain ⟨hf, names, hpick, rfl⟩ := ih e hdeep hqe
        exact ⟨hf, e.1 :: names, .descend he hdeep.1 hpick, rfl⟩
      · cases hqe

/-- On a proper disk the walk reports every regular file reached along a way of plain
names. -/
theorem mem_walk_of_picks (hd : d.Proper) {dir : String} {segments : List Segment}
    {names : List String} (h : Picks d dir segments names) :
    (∀ s ∈ segments, s.Plain) → d.isFile (joinAll dir names) = true →
      joinAll dir names ∈ walk d dir segments := by
  induction h with
  | @nil dir =>
    intro _ hf
    have hfile : d.isFile dir = true := hf
    simp [walk_nil, joinAll, hfile]
  | @literal dir n rest names hpick ih =>
    intro hseg hf
    have hn : Path.Plain n := hseg _ List.mem_cons_self
    have hrest : ∀ s ∈ rest, s.Plain := (List.forall_mem_cons.1 hseg).2
    have hp := present_of_joinAll (hpick.plain hd hrest) (join_ne_empty hn dir) hf
    rw [walk_literal]
    simp only [hp, ↓reduceIte]
    exact ih hrest hf
  | @pattern dir p rest names e he hm hpick ih =>
    intro hseg hf
    rw [walk_pattern]
    exact List.mem_flatMap.2 ⟨e, he, by
      simp only [hm, ↓reduceIte]
      exact ih (List.forall_mem_cons.1 hseg).2 hf⟩
  | stay hpick ih =>
    intro hseg hf
    rw [walk_recursive]
    exact List.mem_append_left _ (ih (List.forall_mem_cons.1 hseg).2 hf)
  | @descend dir rest names e he hdir hpick ih =>
    intro hseg hf
    rw [walk_recursive_of_proper hd]
    refine List.mem_append_right _ (List.mem_flatMap.2 ⟨e, he, ?_⟩)
    rw [if_pos hdir]
    exact ih hseg hf

/-- On a proper disk, the walk through segments with plain names reports exactly the
regular files reached along a way. -/
theorem mem_walk_iff (hd : d.Proper) {dir : String} {segments : List Segment}
    (hseg : ∀ s ∈ segments, s.Plain) (q : String) :
    q ∈ walk d dir segments ↔
      d.isFile q = true ∧ ∃ names, Picks d dir segments names ∧ q = joinAll dir names := by
  refine ⟨picks_of_mem_walk, ?_⟩
  rintro ⟨hf, names, hpick, rfl⟩
  exact mem_walk_of_picks hd hpick hseg hf

/-! ### Masks -/

/-- The directory a mask starts from: the root for a mask with a root, else the source
directory. -/
def maskBase (sourceDir mask : String) : String :=
  if Path.hasRoot mask then "/" else sourceDir

/-- A component that is meant as a pattern, not `**`, and does not read as one. -/
def BadComponent (n : String) : Prop :=
  n ≠ "**" ∧ Glob.hasWildcard n = true ∧ ∃ err, Glob.Pattern.parse n = .error err

/-- A mask with a component that is meant as a pattern and does not read as one. -/
def BadMask (mask : String) : Prop := ∃ n, .name n ∈ Path.components mask ∧ BadComponent n

/-- `names` is a way from `dir` through the components of a mask: `.` and the root are
passed, a plain name or `..` is taken as it is, a pattern takes a listed name it accepts,
and `**` takes listed real directories, none or more. -/
inductive Follows (d : Disk) : String → List Path.Component → List String → Prop
  | nil {dir : String} : Follows d dir [] []
  | root {dir : String} {rest : List Path.Component} {names : List String} :
      Follows d dir rest names → Follows d dir (.root :: rest) names
  | current {dir : String} {rest : List Path.Component} {names : List String} :
      Follows d dir rest names → Follows d dir (.current :: rest) names
  | up {dir : String} {rest : List Path.Component} {names : List String} :
      Follows d (Path.join dir "..") rest names → Follows d dir (.up :: rest) (".." :: names)
  | name {dir n : String} {rest : List Path.Component} {names : List String} :
      Glob.hasWildcard n = false → Follows d (Path.join dir n) rest names →
      Follows d dir (.name n :: rest) (n :: names)
  | wildcard {dir n : String} {rest : List Path.Component} {names : List String}
      {p : Glob.Pattern} {e : String × Node} :
      n ≠ "**" → Glob.hasWildcard n = true → Glob.Pattern.parse n = .ok p →
      e ∈ listDir d dir → p.matchName e.1 = true → Follows d (Path.join dir e.1) rest names →
      Follows d dir (.name n :: rest) (e.1 :: names)
  | stay {dir : String} {rest : List Path.Component} {names : List String} :
      Follows d dir rest names → Follows d dir (.name "**" :: rest) names
  | descend {dir : String} {rest : List Path.Component} {names : List String}
      {e : String × Node} :
      e ∈ listDir d dir → e.2 = .dir → Follows d (Path.join dir e.1) (.name "**" :: rest) names →
      Follows d dir (.name "**" :: rest) (e.1 :: names)

theorem plain_of_mem_bodyComponents {body : List Char} {n : String}
    (h : .name n ∈ Path.bodyComponents body) : Path.Plain n := by
  obtain ⟨piece, hp, hc⟩ := List.mem_filterMap.1 h
  unfold Path.pieceComponent at hc
  split at hc
  · cases hc
  · rename_i hne
    split at hc
    · cases hc
    · simp only [Option.some.injEq, Path.Component.name.injEq] at hc
      subst hc
      refine ⟨fun he => hne (Or.inl ?_), by simpa using Version.not_mem_of_mem_splitAt hp⟩
      simpa using congrArg String.toList he

/-- A name component of a path text is one plain piece of it. -/
theorem plain_of_mem_components {s n : String} (h : .name n ∈ Path.components s) :
    Path.Plain n := by
  unfold Path.components at h
  split at h
  · rcases List.mem_cons.1 h with h | h
    · cases h
    · exact plain_of_mem_bodyComponents h
  · simp at h
  · rcases List.mem_cons.1 h with h | h
    · cases h
    · exact plain_of_mem_bodyComponents h
  · exact plain_of_mem_bodyComponents h

theorem mapM_cons_eq_ok {α β ε : Type} {f : α → Except ε β} {a : α} {l : List α}
    {bs : List β} (h : (a :: l).mapM f = .ok bs) :
    ∃ b bs', f a = .ok b ∧ l.mapM f = .ok bs' ∧ bs = b :: bs' := by
  rw [List.mapM_cons] at h
  rcases hfa : f a with e | b
  · rw [hfa] at h
    cases h
  · rcases hl : l.mapM f with e | bs'
    · rw [hfa, hl] at h
      cases h
    · rw [hfa, hl] at h
      cases h
      exact ⟨b, bs', rfl, rfl, rfl⟩

theorem mapM_eq_error {α β ε : Type} {f : α → Except ε β} :
    ∀ {l : List α} {e : ε}, l.mapM f = .error e → ∃ a ∈ l, f a = .error e
  | [], _, h => by cases h
  | a :: l, e, h => by
    rw [List.mapM_cons] at h
    rcases hfa : f a with e' | b
    · rw [hfa] at h
      cases h
      exact ⟨a, List.mem_cons_self, hfa⟩
    · rcases hl : l.mapM f with e' | bs'
      · rw [hfa, hl] at h
        cases h
        obtain ⟨a', ha', he⟩ := mapM_eq_error hl
        exact ⟨a', List.mem_cons_of_mem _ ha', he⟩
      · rw [hfa, hl] at h
        cases h

theorem mapM_eq_ok {α β ε : Type} {f : α → Except ε β} :
    ∀ {l : List α} {bs : List β}, l.mapM f = .ok bs → ∀ a ∈ l, ∃ b, f a = .ok b
  | [], _, _ => by simp
  | a :: l, bs, h => by
    obtain ⟨b, bs', hfa, hl, -⟩ := mapM_cons_eq_ok h
    intro a' ha'
    rcases List.mem_cons.1 ha' with rfl | ha'
    · exact ⟨b, hfa⟩
    · exact mapM_eq_ok hl a' ha'

section Components

variable {mask n : String}

theorem hasWildcard_star : Glob.hasWildcard "**" = true := by decide

@[simp] theorem segmentOf_root : segmentOf mask .root = .ok none := rfl

@[simp] theorem segmentOf_current : segmentOf mask .current = .ok none := rfl

@[simp] theorem segmentOf_up : segmentOf mask .up = .ok (some (.literal "..")) := rfl

@[simp] theorem segmentOf_star : segmentOf mask (.name "**") = .ok (some .recursive) := by
  simp [segmentOf]

theorem segmentOf_literal (hw : Glob.hasWildcard n = false) :
    segmentOf mask (.name n) = .ok (some (.literal n)) := by
  have hstar : n ≠ "**" := by
    rintro rfl
    simp [hasWildcard_star] at hw
  simp [segmentOf, hstar, hw]

theorem segmentOf_pattern {p : Glob.Pattern} (hstar : n ≠ "**") (hw : Glob.hasWildcard n = true)
    (hp : Glob.Pattern.parse n = .ok p) : segmentOf mask (.name n) = .ok (some (.pattern p)) := by
  simp [segmentOf, hstar, hw, hp]

theorem segmentOf_bad (h : BadComponent n) :
    ∃ m, segmentOf mask (.name n) = .error (.invalidPattern mask m) := by
  obtain ⟨hstar, hw, err, hp⟩ := h
  exact ⟨err.message, by simp [segmentOf, hstar, hw, hp]⟩

/-- What a component compiles to, when it compiles: `.` and the root to nothing, `..` and a
name without wildcards to themselves, `**` to the recursive segment, another name with
wildcards to the pattern it reads as. -/
theorem segmentOf_eq_ok {c : Path.Component} {o : Option Segment} (h : segmentOf mask c = .ok o) :
    (c = .root ∨ c = .current) ∧ o = none ∨ c = .up ∧ o = some (.literal "..") ∨
      c = .name "**" ∧ o = some .recursive ∨
      (∃ n, c = .name n ∧ Glob.hasWildcard n = false ∧ o = some (.literal n)) ∨
      ∃ n p, c = .name n ∧ n ≠ "**" ∧ Glob.hasWildcard n = true ∧
        Glob.Pattern.parse n = .ok p ∧ o = some (.pattern p) := by
  cases c with
  | root =>
    cases h
    exact Or.inl ⟨Or.inl rfl, rfl⟩
  | current =>
    cases h
    exact Or.inl ⟨Or.inr rfl, rfl⟩
  | up =>
    cases h
    exact Or.inr (Or.inl ⟨rfl, rfl⟩)
  | name n =>
    simp only [segmentOf] at h
    split at h
    · rename_i hstar
      cases h
      have hn : n = "**" := by simpa using hstar
      exact Or.inr (Or.inr (Or.inl ⟨hn ▸ rfl, rfl⟩))
    · rename_i hstar
      split at h
      · rename_i hw
        split at h
        · rename_i p hp
          cases h
          exact Or.inr (Or.inr (Or.inr (Or.inr ⟨n, p, rfl, by simpa using hstar, hw, hp, rfl⟩)))
        · cases h
      · rename_i hw
        cases h
        exact Or.inr (Or.inr (Or.inr (Or.inl ⟨n, rfl, by simpa using hw, rfl⟩)))

/-- Only a pattern component that does not read makes a component fail, and it fails as an
invalid pattern of the mask. -/
theorem segmentOf_eq_error {c : Path.Component} {e : JoinError} (h : segmentOf mask c = .error e) :
    ∃ n m, c = .name n ∧ BadComponent n ∧ e = .invalidPattern mask m := by
  cases c with
  | root | current | up => cases h
  | name n =>
    simp only [segmentOf] at h
    split at h
    · cases h
    · rename_i hstar
      split at h
      · rename_i hw
        split at h
        · cases h
        · rename_i err hp
          cases h
          exact ⟨n, _, rfl, ⟨by simpa using hstar, hw, err, hp⟩, rfl⟩
      · cases h

/-- Compiling the components of a mask fails exactly on a bad component, as an invalid
pattern of the mask. -/
theorem mapM_segmentOf_cases (mask : String) (comps : List Path.Component) :
    (∃ os, comps.mapM (segmentOf mask) = .ok os) ∧ (∀ n, .name n ∈ comps → ¬BadComponent n) ∨
      (∃ m, comps.mapM (segmentOf mask) = .error (.invalidPattern mask m)) ∧
        ∃ n, .name n ∈ comps ∧ BadComponent n := by
  rcases hmap : comps.mapM (segmentOf mask) with e | os
  · obtain ⟨c, hc, he⟩ := mapM_eq_error hmap
    obtain ⟨n, m, rfl, hbad, rfl⟩ := segmentOf_eq_error he
    exact Or.inr ⟨⟨m, rfl⟩, n, hc, hbad⟩
  · refine Or.inl ⟨⟨os, rfl⟩, fun n hn hbad => ?_⟩
    obtain ⟨o, ho⟩ := mapM_eq_ok hmap _ hn
    obtain ⟨m, hm⟩ : ∃ m, segmentOf mask (.name n) = .error (.invalidPattern mask m) :=
      segmentOf_bad hbad
    rw [ho] at hm
    cases hm

/-- The segments of components with plain names have plain names. -/
theorem plain_of_mapM_segmentOf :
    ∀ {comps : List Path.Component} {os : List (Option Segment)},
      comps.mapM (segmentOf mask) = .ok os → (∀ n, .name n ∈ comps → Path.Plain n) →
        ∀ s ∈ os.filterMap id, s.Plain
  | [], os, h => by
    cases h
    simp
  | c :: comps, os, h => by
    obtain ⟨o, os', hc, hcs, rfl⟩ := mapM_cons_eq_ok h
    intro hplain s hs
    have ih := plain_of_mapM_segmentOf hcs fun n hn => hplain n (List.mem_cons_of_mem _ hn)
    cases o with
    | none => exact ih s hs
    | some o =>
      rcases List.mem_cons.1 hs with rfl | hs
      · rcases segmentOf_eq_ok hc with ⟨-, ho⟩ | ⟨-, ho⟩ | ⟨-, ho⟩ | ⟨n, rfl, -, ho⟩ |
            ⟨n, p, -, -, -, -, ho⟩ <;> cases ho
        · exact ⟨by decide, by decide⟩
        · trivial
        · exact hplain n List.mem_cons_self
        · trivial
      · exact ih s hs

end Components

/-- A way through the components is a way through the segments they compile to. -/
theorem Follows.picks {dir : String} {comps : List Path.Component} {names : List String}
    (h : Follows d dir comps names) :
    ∀ {os : List (Option Segment)}, comps.mapM (segmentOf mask) = .ok os →
      Picks d dir (os.filterMap id) names := by
  induction h with
  | nil =>
    intro os h
    cases h
    exact .nil
  | root _ ih | current _ ih =>
    intro os h
    obtain ⟨o, os', hc, hcs, rfl⟩ := mapM_cons_eq_ok h
    cases hc
    show Picks d _ (os'.filterMap id) _
    exact ih hcs
  | up _ ih =>
    intro os h
    obtain ⟨o, os', hc, hcs, rfl⟩ := mapM_cons_eq_ok h
    cases hc
    exact .literal (ih hcs)
  | name hw _ ih =>
    intro os h
    obtain ⟨o, os', hc, hcs, rfl⟩ := mapM_cons_eq_ok h
    rw [segmentOf_literal hw] at hc
    cases hc
    exact .literal (ih hcs)
  | wildcard hstar hw hp he hm _ ih =>
    intro os h
    obtain ⟨o, os', hc, hcs, rfl⟩ := mapM_cons_eq_ok h
    rw [segmentOf_pattern hstar hw hp] at hc
    cases hc
    exact .pattern he hm (ih hcs)
  | stay _ ih =>
    intro os h
    obtain ⟨o, os', hc, hcs, rfl⟩ := mapM_cons_eq_ok h
    cases hc
    exact .stay (ih hcs)
  | descend he hdir _ ih =>
    intro os h
    have hp := ih h
    obtain ⟨o, os', hc, -, rfl⟩ := mapM_cons_eq_ok h
    cases hc
    exact .descend he hdir hp

/-- `**` over ways of the rest: a way of the recursive segment is one of the component. -/
theorem follows_star {dir : String} {comps : List Path.Component} {segments : List Segment}
    {names : List String}
    (hrest : ∀ {dir names}, Picks d dir segments names → Follows d dir comps names)
    (h : Picks d dir (.recursive :: segments) names) : Follows d dir (.name "**" :: comps) names := by
  generalize hl : (Segment.recursive :: segments) = l at h
  induction h with
  | nil | literal | pattern => cases hl
  | stay h _ =>
    cases hl
    exact .stay (hrest h)
  | descend he hdir _ ih =>
    cases hl
    exact .descend he hdir (ih rfl)

/-- A way through compiled segments is a way through the components. -/
theorem Picks.follows :
    ∀ {comps : List Path.Component} {os : List (Option Segment)},
      comps.mapM (segmentOf mask) = .ok os →
        ∀ {dir : String} {names : List String}, Picks d dir (os.filterMap id) names →
          Follows d dir comps names
  | [], os, h => by
    cases h
    intro hp
    cases hp
    exact .nil
  | c :: comps, os, h => by
    obtain ⟨o, os', hc, hcs, rfl⟩ := mapM_cons_eq_ok h
    have ih : ∀ {dir : String} {names : List String}, Picks d dir (os'.filterMap id) names →
        Follows d dir comps names := Picks.follows hcs
    intro hp
    rcases segmentOf_eq_ok hc with ⟨rfl | rfl, rfl⟩ | ⟨rfl, rfl⟩ | ⟨rfl, rfl⟩ | ⟨n, rfl, hw, rfl⟩ |
        ⟨n, p, rfl, hstar, hw, hparse, rfl⟩
    · exact .root (ih hp)
    · exact .current (ih hp)
    · cases hp with
      | literal hp => exact .up (ih hp)
    · exact follows_star ih hp
    · cases hp with
      | literal hp => exact .name hw (ih hp)
    · cases hp with
      | pattern he hm hp => exact .wildcard hstar hw hparse he hm (ih hp)

theorem follows_iff_picks {comps : List Path.Component} {os : List (Option Segment)}
    (h : comps.mapM (segmentOf mask) = .ok os) (dir : String) (names : List String) :
    Follows d dir comps names ↔ Picks d dir (os.filterMap id) names :=
  ⟨fun hf => hf.picks h, Picks.follows h⟩


theorem compileMask_of_mapM {src mask : String} {os : List (Option Segment)}
    (h : (Path.components mask).mapM (segmentOf mask) = .ok os) :
    compileMask src mask = .ok (maskBase src mask, os.filterMap id) := by
  simp [compileMask, h, maskBase, bind, Except.bind, pure, Except.pure]

theorem compileMask_of_mapM_error (src : String) {mask : String} {e : JoinError}
    (h : (Path.components mask).mapM (segmentOf mask) = .error e) :
    compileMask src mask = .error e := by
  simp [compileMask, h, bind, Except.bind]

section Resolve

variable {src mask : String}

theorem resolveMask_compiled (sort : Bool) {base : String} {segments : List Segment}
    (hf : d.isFile mask = false) (hc : compileMask src mask = .ok (base, segments)) :
    resolveMask d src mask sort =
      .ok (if sort then (walk d base segments).mergeSort (fun a b => Path.le a b)
        else walk d base segments) := by
  simp [resolveMask, hf, hc, bind, Except.bind, pure, Except.pure]

theorem resolveMask_error (sort : Bool) {e : JoinError} (hf : d.isFile mask = false)
    (hc : compileMask src mask = .error e) : resolveMask d src mask sort = .error e := by
  simp [resolveMask, hf, hc, bind, Except.bind]

/-- Unsorted, a mask that names no file and compiles picks what the walk reports. -/
theorem resolveMask_walk {os : List (Option Segment)} (hf : d.isFile mask = false)
    (hmap : (Path.components mask).mapM (segmentOf mask) = .ok os) :
    resolveMask d src mask false = .ok (walk d (maskBase src mask) (os.filterMap id)) := by
  rw [resolveMask_compiled false hf (compileMask_of_mapM hmap)]
  rfl

/-- What a mask picks, for every disk with proper names. A mask naming a regular file is
that file. Otherwise the mask fails, as an invalid pattern of itself, exactly when a
pattern component does not read; and when none fails, a path is picked exactly when it is
a regular file reached from the base along a way through the mask's components. Unsorted,
the files come in the order the walk meets them: depth first, each directory in its
listing order. -/
theorem resolveMask_matches (hd : d.Proper) (src mask : String) (sort : Bool) :
    (d.isFile mask = true → resolveMask d src mask sort = .ok [mask]) ∧
    (d.isFile mask = false →
      ((∃ m, resolveMask d src mask sort = .error (.invalidPattern mask m)) ↔ BadMask mask) ∧
      (¬BadMask mask → ∃ found, resolveMask d src mask sort = .ok found ∧
        (∀ q, q ∈ found ↔ d.isFile q = true ∧
          ∃ names, Follows d (maskBase src mask) (Path.components mask) names ∧
            q = joinAll (maskBase src mask) names) ∧
        (sort = false → ∃ segments, compileMask src mask = .ok (maskBase src mask, segments) ∧
          Walks d (maskBase src mask) segments found))) := by
  refine ⟨resolveMask_file, fun hf => ?_⟩
  rcases mapM_segmentOf_cases mask (Path.components mask) with
    ⟨⟨os, hos⟩, hgood⟩ | ⟨⟨m, hm⟩, hbad⟩
  · have hc : compileMask src mask = .ok (maskBase src mask, os.filterMap id) :=
      compileMask_of_mapM hos
    have hres := resolveMask_compiled sort hf hc
    have hnot : ¬BadMask mask := fun ⟨n, hn, hb⟩ => hgood n hn hb
    refine ⟨⟨?_, fun hb => absurd hb hnot⟩, fun _ => ⟨_, hres, fun q => ?_, ?_⟩⟩
    · rintro ⟨m, hm⟩
      rw [hres] at hm
      cases hm
    · have hseg := plain_of_mapM_segmentOf hos fun n hn => plain_of_mem_components hn
      have hsorted : (q ∈ if sort then (walk d (maskBase src mask) (os.filterMap id)).mergeSort
          (fun a b => Path.le a b) else walk d (maskBase src mask) (os.filterMap id)) ↔
          q ∈ walk d (maskBase src mask) (os.filterMap id) := by
        split
        · exact List.mem_mergeSort
        · exact Iff.rfl
      rw [hsorted, mem_walk_iff hd hseg]
      simp only [follows_iff_picks hos]
    · rintro rfl
      exact ⟨_, hc, walks_walk hd _ _⟩
  · have hres := resolveMask_error sort hf (compileMask_of_mapM_error src hm)
    exact ⟨⟨fun _ => hbad, fun _ => ⟨m, hres⟩⟩, fun hnot => absurd hbad hnot⟩

end Resolve

/-- The mask `**/loop/*/f`: no file by that name, and every component reads. -/
theorem loop_mask_plain :
    loopDisk.isFile "**/loop/*/f" = false ∧ ¬BadMask "**/loop/*/f" ∧
      maskBase "." "**/loop/*/f" = "." := by
  have hp : Disk.pieces "**/loop/*/f" = ["**", "loop", "*", "f"] := by decide
  have hc : Path.components "**/loop/*/f" = [.name "**", .name "loop", .name "*", .name "f"] := by
    decide
  refine ⟨?_, ?_, by decide⟩
  · simp +decide [Disk.isFile, Disk.stat, Disk.locate, Disk.locateWith, loopDisk, Disk.walk,
      Disk.node?, Disk.wantsDir, Except.bind, hp]
  · rintro ⟨n, hn, hstar, hw, err, hparse⟩
    rw [hc] at hn
    simp only [List.mem_cons, Path.Component.name.injEq, List.not_mem_nil, or_false] at hn
    rcases hn with rfl | rfl | rfl | rfl
    · exact hstar rfl
    · simp +decide at hw
    · cases hparse
    · simp +decide at hw

theorem loop_mask_resolves :
    loopDisk.Proper ∧ ∃ found, resolveMask loopDisk "." "**/loop/*/f" false = .ok found ∧
      ∃ segments, compileMask "." "**/loop/*/f" = .ok (".", segments) ∧
        Walks loopDisk "." segments found := by
  obtain ⟨hf, hgood, hbase⟩ := loop_mask_plain
  obtain ⟨found, hres, -, hwalk⟩ := ((resolveMask_matches loopDisk_proper "." "**/loop/*/f" false).2 hf).2 hgood
  rw [hbase] at hwalk
  exact ⟨loopDisk_proper, found, hres, hwalk rfl⟩

end FirmwareStamp.Join
