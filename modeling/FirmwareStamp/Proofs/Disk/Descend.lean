import Mathlib.Data.List.Nodup
import FirmwareStamp.Proofs.Disk.Making
import FirmwareStamp.Proofs.Path.Parent

/-!
Lookups one name further. A walk that ends at a directory goes on from there when more
names follow (`walk_append_of_dir`), and a walk through more names that succeeded passed a
directory where the first of them end (`walk_prefix_dir`). A plain name, not empty and
without a slash, adds one piece to a text it is joined to, so the joined text is looked
up from the place the text led to. On a disk whose entries stand at distinct paths of
proper names, as on a real file system, what a directory lists is one level below it.
-/

namespace FirmwareStamp

/-- A name a path text holds as one piece: not empty and without a slash. -/
def Path.Plain (n : String) : Prop := n ≠ "" ∧ '/' ∉ n.toList

instance (n : String) : Decidable (Path.Plain n) := inferInstanceAs (Decidable (_ ∧ _))

namespace Disk

/-- A name a directory lists: plain, and neither `.` nor `..`. -/
def ProperName (n : String) : Prop := Path.Plain n ∧ n ≠ "." ∧ n ≠ ".."

instance (n : String) : Decidable (ProperName n) := inferInstanceAs (Decidable (_ ∧ _))

/-- A disk as a file system keeps one: no two entries at one path, and every path made of
names a directory lists. -/
structure Proper (d : Disk) : Prop where
  nodup : (d.entries.map (·.1)).Nodup
  names : ∀ e ∈ d.entries, ∀ n ∈ e.1, ProperName n

variable {d : Disk}

/-- A walk that ends at a directory goes on from there: walking more names after it is
walking them from that directory, with the links it has left. -/
theorem walk_append_of_dir (w : Bool) (links : Nat) (cur cs : List String) (p : List String)
    (sl : Bool) (more : List String) :
    d.walk true w links cur cs = .ok (.found p .dir sl) → more ≠ [] →
      ∃ k, ∀ f w', d.walk f w' links cur (cs ++ more) = d.walk f w' k p more := by
  fun_induction d.walk true w links cur cs with
  | case4 | case6 | case7 | case13 | case14 | case16 | case17 | case18 => intro h; cases h
  | case5 | case9 => intro h; simp_all
  | case1 =>
    intro h _
    simp only [Except.ok.injEq, Place.found.injEq] at h
    obtain ⟨rfl, -⟩ := h
    exact ⟨_, fun _ _ => rfl⟩
  | case2 _ links cur c h =>
    intro hw hm
    simp only [Except.ok.injEq, Place.found.injEq] at hw
    obtain ⟨rfl, -⟩ := hw
    obtain ⟨m, ms, rfl⟩ := List.exists_cons_of_ne_nil hm
    exact ⟨links, fun f w' => by rw [List.singleton_append, walk, if_pos h]⟩
  | case3 _ links cur c h1 h2 =>
    intro hw hm
    simp only [Except.ok.injEq, Place.found.injEq] at hw
    obtain ⟨rfl, -⟩ := hw
    obtain ⟨m, ms, rfl⟩ := List.exists_cons_of_ne_nil hm
    exact ⟨links, fun f w' => by rw [List.singleton_append, walk, if_neg h1, if_pos h2]⟩
  | case10 _ links cur c h1 h2 h3 x n _ hnode =>
    intro hw hm
    simp only [Except.ok.injEq, Place.found.injEq] at hw
    obtain ⟨hx, rfl, -⟩ := hw
    obtain ⟨m, ms, rfl⟩ := List.exists_cons_of_ne_nil hm
    refine ⟨links, fun f w' => ?_⟩
    rw [List.singleton_append, walk, if_neg h1, if_neg h2, if_neg h3]
    simp_all +zetaDelta
  | case8 _ cur c h1 h2 h3 x t hnode _ n hempty ih =>
    intro hw hm
    obtain ⟨k, hk⟩ := ih hw hm
    obtain ⟨m, ms, rfl⟩ := List.exists_cons_of_ne_nil hm
    have hn : d.node? (cur ++ [c]) = some (.link t) := hnode
    refine ⟨k, fun f w' => ?_⟩
    rw [List.singleton_append, walk, if_neg h1, if_neg h2, if_neg h3]
    simp only [hn, hempty, Bool.false_eq_true, ↓reduceIte]
    exact hk f w'
  | case11 _ links cur c c' rest h ih =>
    intro hw hm
    obtain ⟨k, hk⟩ := ih hw hm
    exact ⟨k, fun f w' => by rw [List.cons_append, List.cons_append, walk, if_pos h, ← hk f w']; rfl⟩
  | case12 _ links cur c c' rest h1 h2 ih =>
    intro hw hm
    obtain ⟨k, hk⟩ := ih hw hm
    exact ⟨k, fun f w' => by
      rw [List.cons_append, List.cons_append, walk, if_neg h1, if_pos h2, ← hk f w']; rfl⟩
  | case15 _ links cur c c' rest h1 h2 h3 x hnode ih =>
    intro hw hm
    obtain ⟨k, hk⟩ := ih hw hm
    refine ⟨k, fun f w' => ?_⟩
    rw [List.cons_append, List.cons_append, walk, if_neg h1, if_neg h2, if_neg h3, ← hk f w']
    simp_all +zetaDelta
  | case19 _ cur c c' rest h1 h2 h3 x t hnode n hempty ih =>
    intro hw hm
    obtain ⟨k, hk⟩ := ih hw hm
    refine ⟨k, fun f w' => ?_⟩
    rw [List.cons_append, List.cons_append, walk, if_neg h1, if_neg h2, if_neg h3, ← hk f w']
    simp_all +zetaDelta

theorem eq_nil_of_singleton_eq_append {c : String} {cs more : List String}
    (h : [c] = cs ++ more) (hm : more ≠ []) : cs = [] := by
  cases cs with
  | nil => rfl
  | cons c0 cs1 =>
    simp only [List.cons_append, List.cons.injEq, List.nil_eq_append_iff] at h
    exact absurd h.2.2 hm

/-- A walk through more names that succeeded passed a directory where the first names
end, whatever is asked of the last of them. -/
theorem walk_prefix_dir (f w : Bool) (links : Nat) (cur comps : List String) (pl : Place) :
    d.walk f w links cur comps = .ok pl → ∀ cs more, comps = cs ++ more → more ≠ [] →
      ∀ w0, ∃ p sl, d.walk true w0 links cur cs = .ok (.found p .dir sl) := by
  fun_induction d.walk f w links cur comps with
  | case4 | case6 | case7 | case13 | case14 | case16 | case17 | case18 => intro hw; cases hw
  | case1 =>
    intro _ cs more hcomps hm
    exact absurd (List.append_eq_nil_iff.1 hcomps.symm).2 hm
  | case2 | case3 | case5 | case8 | case9 | case10 =>
    intro _ cs more hcomps hm w0
    obtain rfl := eq_nil_of_singleton_eq_append hcomps hm
    exact ⟨_, _, by rw [walk]⟩
  | case11 _ links cur c c' rest h ih =>
    intro hw cs more hcomps hm w0
    cases cs with
    | nil => exact ⟨_, _, by rw [walk]⟩
    | cons c0 cs1 =>
      simp only [List.cons_append, List.cons.injEq] at hcomps
      obtain ⟨rfl, hrest⟩ := hcomps
      cases cs1 with
      | nil => exact ⟨cur, w0, by rw [walk, if_pos h]⟩
      | cons x xs =>
        obtain ⟨p, sl, hp⟩ := ih hw (x :: xs) more hrest hm w0
        exact ⟨p, sl, by rw [walk, if_pos h]; exact hp⟩
  | case12 _ links cur c c' rest h1 h2 ih =>
    intro hw cs more hcomps hm w0
    cases cs with
    | nil => exact ⟨_, _, by rw [walk]⟩
    | cons c0 cs1 =>
      simp only [List.cons_append, List.cons.injEq] at hcomps
      obtain ⟨rfl, hrest⟩ := hcomps
      cases cs1 with
      | nil => exact ⟨cur.dropLast, w0, by rw [walk, if_neg h1, if_pos h2]⟩
      | cons x xs =>
        obtain ⟨p, sl, hp⟩ := ih hw (x :: xs) more hrest hm w0
        exact ⟨p, sl, by rw [walk, if_neg h1, if_pos h2]; exact hp⟩
  | case15 _ links cur c c' rest h1 h2 h3 x hnode ih =>
    intro hw cs more hcomps hm w0
    have hn : d.node? (cur ++ [c]) = some .dir := hnode
    cases cs with
    | nil => exact ⟨_, _, by rw [walk]⟩
    | cons c0 cs1 =>
      simp only [List.cons_append, List.cons.injEq] at hcomps
      obtain ⟨rfl, hrest⟩ := hcomps
      cases cs1 with
      | nil => exact ⟨cur ++ [c], w0, by rw [walk, if_neg h1, if_neg h2, if_neg h3]; simp [hn]⟩
      | cons x xs =>
        obtain ⟨p, sl, hp⟩ := ih hw (x :: xs) more hrest hm w0
        exact ⟨p, sl, by rw [walk, if_neg h1, if_neg h2, if_neg h3]; simpa [hn] using hp⟩
  | case19 _ cur c c' rest h1 h2 h3 x t hnode n hempty ih =>
    intro hw cs more hcomps hm w0
    have hn : d.node? (cur ++ [c]) = some (.link t) := hnode
    cases cs with
    | nil => exact ⟨_, _, by rw [walk]⟩
    | cons c0 cs1 =>
      simp only [List.cons_append, List.cons.injEq] at hcomps
      obtain ⟨rfl, hrest⟩ := hcomps
      cases cs1 with
      | nil =>
        obtain ⟨p, sl, hp⟩ := ih hw (pieces t) (c' :: rest) rfl (by simp) (w0 || wantsDir t)
        exact ⟨p, sl, by
          rw [walk, if_neg h1, if_neg h2, if_neg h3]
          simpa [hn, hempty] using hp⟩
      | cons x xs =>
        obtain ⟨p, sl, hp⟩ := ih hw (pieces t ++ x :: xs) more (by simp [hrest]) hm w0
        exact ⟨p, sl, by
          rw [walk, if_neg h1, if_neg h2, if_neg h3]
          simpa [hn, hempty] using hp⟩

section Plain

variable {n : String}

theorem pieces_plain (h : Path.Plain n) : pieces n = [n] := by
  have hl : n.toList ≠ [] := by simpa using h.1
  simp [pieces, Version.splitAt_of_not_mem h.2, hl]

theorem hasRoot_plain (h : Path.Plain n) : Path.hasRoot n = false := by
  cases hn : n.toList with
  | nil => simp [Path.hasRoot, hn]
  | cons c rest =>
    have hc : c ≠ '/' := fun e => h.2 (by rw [hn, e]; exact List.mem_cons_self)
    simp [Path.hasRoot, hn, hc]

/-- A plain name joined to a text adds one piece to it. -/
theorem pieces_join (h : Path.Plain n) (s : String) :
    pieces (Path.join s n) = pieces s ++ [n] := by
  unfold Path.join
  rw [hasRoot_plain h]
  simp only [Bool.false_eq_true, ↓reduceIte]
  split
  · rename_i hs
    obtain rfl : s = "" := by simpa using hs
    rw [pieces_plain h]
    simp [pieces, Version.splitAt]
  · split
    · rename_i _ hlast
      have hcut : Path.AtSlash s.toList n.toList := Or.inr (Or.inr (Or.inl (by simpa using hlast)))
      have := Path.pieces_append hcut
      rw [String.ofList_toList, String.ofList_toList, pieces_plain h] at this
      rwa [← String.toList_append, String.ofList_toList] at this
    · have hcut : Path.AtSlash s.toList ('/' :: n.toList) := Or.inr (Or.inr (Or.inr rfl))
      have hsep : pieces (String.ofList ('/' :: n.toList)) = [n] := by
        have hl : n.toList ≠ [] := by simpa using h.1
        simp [pieces, Version.splitAt, Version.splitAt_of_not_mem h.2, hl]
      have hstr : String.ofList (s.toList ++ '/' :: n.toList) = s ++ "/" ++ n := by
        simp [String.ofList_append, String.append_assoc]
      have := Path.pieces_append hcut
      rw [String.ofList_toList, hsep, hstr] at this
      exact this

/-- A plain name is joined to a text that is not empty behind the text itself. -/
theorem join_plain (h : Path.Plain n) {s : String} (hs : s ≠ "") :
    ∃ sep : String, Path.join s n = s ++ (sep ++ n) := by
  unfold Path.join
  rw [hasRoot_plain h]
  have hs' : s.isEmpty = false := by simpa using hs
  simp only [Bool.false_eq_true, ↓reduceIte, hs']
  split
  · exact ⟨"", by simp⟩
  · exact ⟨"/", by simp [String.append_assoc]⟩

theorem hasRoot_join (h : Path.Plain n) {s : String} (hs : s ≠ "") :
    Path.hasRoot (Path.join s n) = Path.hasRoot s := by
  obtain ⟨sep, hj⟩ := join_plain h hs
  obtain ⟨c, cs, hc⟩ := List.exists_cons_of_ne_nil (by simpa using hs : s.toList ≠ [])
  simp [hj, Path.hasRoot, hc]

theorem base_join (h : Path.Plain n) {s : String} (hs : s ≠ "") :
    d.base (Path.join s n) = d.base s := by
  simp [base, hasRoot_join h hs]

/-- A text ending in a plain name does not ask for a directory. -/
theorem wantsDir_join (h : Path.Plain n) (s : String) : wantsDir (Path.join s n) = false := by
  have hlast : ∀ pre : String, wantsDir (pre ++ n) = false := by
    intro pre
    have hl : n.toList ≠ [] := by simpa using h.1
    obtain ⟨x, hx⟩ : ∃ x, n.toList.getLast? = some x := ⟨_, List.getLast?_eq_some_getLast hl⟩
    have hxs : x ≠ '/' := fun e => h.2 (e ▸ List.mem_of_getLast? hx)
    simp [wantsDir, hx, hxs]
  unfold Path.join
  rw [hasRoot_plain h]
  simp only [Bool.false_eq_true, ↓reduceIte]
  split
  · simpa using hlast ""
  · split
    · exact hlast s
    · simpa [String.append_assoc] using hlast (s ++ "/")

/-- A text that the system looks up with a plain name joined to it is looked up itself. -/
theorem admits_of_join (h : Path.Plain n) {s : String} (hs : s ≠ "")
    (ha : Admits (Path.join s n)) : Admits s := by
  obtain ⟨sep, hj⟩ := join_plain h hs
  rw [hj] at ha
  obtain ⟨hnul, hsize, -⟩ := ha
  refine ⟨fun hm => hnul (by simp [hm]), ?_, hs⟩
  simp only [String.utf8ByteSize_append] at hsize
  omega

end Plain

theorem locateWith_of_not_admits {s : String} (h : ¬Admits s) (f w : Bool) :
    ∃ e, d.locateWith f w s = .error e := by
  unfold locateWith
  split
  · exact ⟨_, rfl⟩
  split
  · exact ⟨_, rfl⟩
  split
  · exact ⟨_, rfl⟩
  rename_i hnul hsize hempty
  exact absurd ⟨by simpa using hnul, by omega, by simpa using hempty⟩ h

variable {s : String} {p : List String} {sl : Bool}

/-- A plain name joined to a text that leads to a directory is looked up from that
directory, unless the system refuses the longer text. -/
theorem locateWith_join_of_dir (h : Path.Plain n) (hloc : d.locate true s = .ok (.found p .dir sl))
    (f w : Bool) :
    (∃ e, d.locateWith f w (Path.join s n) = .error e) ∨
      ∃ k, d.locateWith f w (Path.join s n) = d.walk f w k p [n] := by
  have hadm := admits_of_locateWith hloc
  rw [locate, locateWith_of_admits _ _ _ hadm] at hloc
  obtain ⟨k, hk⟩ := walk_append_of_dir _ _ _ _ _ _ [n] hloc (by simp)
  by_cases hj : Admits (Path.join s n)
  · refine Or.inr ⟨k, ?_⟩
    rw [locateWith_of_admits _ _ _ hj, base_join h hadm.2.2, pieces_join h, hk]
  · exact Or.inl (locateWith_of_not_admits hj f w)

/-- A text with a plain name joined to it that is looked up at all passes a directory where
the text leads. -/
theorem locate_of_join (h : Path.Plain n) (hs : s ≠ "") {f w : Bool} {pl : Place}
    (hloc : d.locateWith f w (Path.join s n) = .ok pl) :
    ∃ p sl, d.locate true s = .ok (.found p .dir sl) := by
  have hadm := admits_of_locateWith hloc
  have hadm' := admits_of_join h hs hadm
  rw [locateWith_of_admits _ _ _ hadm, base_join h hs, pieces_join h] at hloc
  obtain ⟨p, sl, hp⟩ := walk_prefix_dir _ _ _ _ _ _ hloc (pieces s) [n] rfl (by simp) (wantsDir s)
  exact ⟨p, sl, by rw [locate, locateWith_of_admits _ _ _ hadm']; exact hp⟩

/-- Whatever a text with a plain name joined to it leads to, the text leads somewhere. -/
theorem present_of_join (h : Path.Plain n) (hs : s ≠ "")
    (hp : d.present (Path.join s n) = true) : d.present s = true := by
  unfold present stat at hp
  rcases hloc : d.locate true (Path.join s n) with e | pl
  · simp [hloc, Except.bind] at hp
  · obtain ⟨q, sl, hq⟩ := locate_of_join h hs hloc
    simp [present, stat, hq, Except.bind, Place.node]

/-- A proper name joined to a text that leads to a directory leads to the directory listed
under that name there, unless the system refuses the longer text or the name. -/
theorem locate_join_child {n : String} (h : ProperName n)
    (hloc : d.locate true s = .ok (.found p .dir sl)) (hnode : d.node? (p ++ [n]) = some .dir) :
    d.locate true (Path.join s n) = .ok (.found (p ++ [n]) .dir false) ∨
      ∃ e, d.locate true (Path.join s n) = .error e := by
  obtain ⟨hplain, hdot, hup⟩ := h
  rcases locateWith_join_of_dir hplain hloc true false with ⟨e, he⟩ | ⟨k, hk⟩
  · exact Or.inr ⟨e, by rw [locate, wantsDir_join hplain]; exact he⟩
  · have h1 : ¬(n == ".") = true := by simpa using hdot
    have h2 : ¬(n == "..") = true := by simpa using hup
    rw [locate, wantsDir_join hplain, hk, walk, if_neg h1, if_neg h2]
    split
    · exact Or.inr ⟨_, rfl⟩
    · simp [hnode]

theorem childName_eq_some {p q : List String} {n : String} (h : childName p q = some n) :
    q = p ++ [n] := by
  unfold childName at h
  split at h
  · rename_i hc
    obtain ⟨hlen, hpre⟩ := hc
    have hq : p ++ q.drop p.length = q :=
      List.prefix_iff_eq_append.1 (List.isPrefixOf_iff_prefix.1 hpre)
    obtain ⟨x, hx⟩ := List.length_eq_one_iff.1 (by simp [hlen] : (q.drop p.length).length = 1)
    rw [hx] at h hq
    simp only [List.head?_cons, Option.some.injEq] at h
    rw [← hq, h]
  · cases h

/-- What a directory lists is an entry one name below it. -/
theorem mem_children {p : List String} {e : String × Node} (h : e ∈ d.children p) :
    (p ++ [e.1], e.2) ∈ d.entries := by
  unfold children at h
  obtain ⟨x, hx, hxe⟩ := List.mem_filterMap.1 h
  obtain ⟨n, hn, rfl⟩ := Option.map_eq_some_iff.1 hxe
  rw [← childName_eq_some hn]
  exact hx

namespace Proper

variable (hd : d.Proper)
include hd

/-- On a proper disk, every entry is the node at its path. -/
theorem node?_of_mem {q : List String} {k : Node} (hq : q ≠ []) (h : (q, k) ∈ d.entries) :
    d.node? q = some k := by
  rw [node?_of_ne_nil _ hq]
  cases hf : d.entries.find? (·.1 == q) with
  | none => exact absurd (List.find?_eq_none.1 hf (q, k) h) (by simp)
  | some x =>
    have hxq : x.1 = q := by simpa using List.find?_some hf
    have hx := List.inj_on_of_nodup_map hd.nodup (List.mem_of_find?_eq_some hf) h hxq
    simp [hx]

theorem properName_of_children {p : List String} {e : String × Node} (h : e ∈ d.children p) :
    ProperName e.1 :=
  hd.names _ (mem_children h) e.1 (by simp)

/-- A directory lists each name once. -/
theorem children_nodup (p : List String) : ((d.children p).map (·.1)).Nodup := by
  have hmap : (d.children p).map (·.1) = (d.entries.map (·.1)).filterMap (childName p) := by
    simp [children, List.map_filterMap, List.filterMap_map, Function.comp_def]
  rw [hmap]
  exact hd.nodup.filterMap fun q q' n hn hn' =>
    (childName_eq_some hn).trans (childName_eq_some hn').symm

end Proper

end Disk

end FirmwareStamp
