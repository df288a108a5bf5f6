import Mathlib.Data.List.Induction
import FirmwareStamp.Proofs.Disk.Change

/-!
Disks that are trees, and lookups that never go up. On a real disk every entry hangs
below a directory, so nothing stands below a missing place. A path text without `..`
passes only places above the one it ends at. Together they make whether a path leads to
a regular file a matter of the place it ends at alone, as long as a change only adds
directories where nothing was: a place on the way that was missing left nothing below it,
before the change and after.
-/

namespace FirmwareStamp.Disk

/-- Every entry hangs below a directory: the parent of an entry is the root or a directory. -/
def Tree (d : Disk) : Prop :=
  ∀ p n, p ≠ [] → d.node? p = some n → d.node? p.dropLast = some .dir

/-- A path text none of whose pieces is `..`. -/
def Direct (s : String) : Prop := ".." ∉ pieces s

variable {d d' : Disk} {s : String}

/-- Above an entry of a tree stand only directories. -/
theorem Tree.dir_of_prefix (htree : d.Tree) {p q : List String} {n : Node}
    (hp : d.node? p = some n) (hq : q <+: p) (hne : q ≠ p) : d.node? q = some .dir := by
  induction p using List.reverseRecOn generalizing n with
  | nil => exact absurd (List.prefix_nil.mp hq) hne
  | append_singleton xs x ih =>
    have hparent : d.node? xs = some .dir := by
      simpa using htree _ _ (by simp) hp
    rcases List.prefix_concat_iff.mp hq with e | e
    · exact absurd e hne
    · by_cases hx : q = xs
      · rw [hx]
        exact hparent
      · exact ih hparent e hx

/-- Below a missing place of a tree nothing stands. -/
theorem Tree.none_below (htree : d.Tree) {p q : List String} (hq : d.node? q = none)
    (hqp : q <+: p) : d.node? p = none := by
  cases hp : d.node? p with
  | none => rfl
  | some n =>
    by_cases he : q = p
    · rw [he, hp] at hq
      cases hq
    · have hdir := htree.dir_of_prefix hp hqp he
      rw [hq] at hdir
      cases hdir

theorem prefix_lexPlace : ∀ (cur cs : List String), ".." ∉ cs → cur <+: lexPlace cur cs
  | cur, [], _ => List.prefix_refl cur
  | cur, c :: rest, h => by
    have hrest : ".." ∉ rest := fun hm => h (List.mem_cons_of_mem _ hm)
    have hup : ¬(c == "..") = true := fun e => h (by simp at e; simp [e])
    by_cases hdot : (c == ".") = true
    · rw [lexPlace_dot hdot]
      exact prefix_lexPlace cur rest hrest
    · rw [lexPlace_name hdot hup]
      exact (List.prefix_append cur [c]).trans (prefix_lexPlace _ rest hrest)

theorem lexWay_prefix : ∀ (cur cs : List String), ".." ∉ cs →
    ∀ q ∈ lexWay cur cs, q <+: lexPlace cur cs
  | _, [], _, q, hq => by simp [lexWay] at hq
  | cur, c :: rest, h, q, hq => by
    have hrest : ".." ∉ rest := fun hm => h (List.mem_cons_of_mem _ hm)
    have hup : ¬(c == "..") = true := fun e => h (by simp at e; simp [e])
    by_cases hdot : (c == ".") = true
    · rw [lexWay_dot hdot] at hq
      rw [lexPlace_dot hdot]
      exact lexWay_prefix cur rest hrest q hq
    · rw [lexWay_name hdot hup] at hq
      rw [lexPlace_name hdot hup]
      rcases List.mem_cons.mp hq with rfl | hq
      · exact prefix_lexPlace _ rest hrest
      · exact lexWay_prefix _ rest hrest q hq

/-- A lookup that never goes up passes only places above the one it ends at. -/
theorem prefix_of_wayOf (hdirect : Direct s) : ∀ q ∈ d.wayOf s, q <+: d.placeOf s :=
  lexWay_prefix _ _ hdirect

theorem readBytes_of_isFile (h : d.isFile s = true) : ∃ data, d.readBytes s = .ok data := by
  unfold isFile stat at h
  unfold readBytes
  split at h
  · rename_i data hdata
    exact ⟨data, by rw [hdata]⟩
  · simp at h

/-- Without links on the way, no regular file is reached where nothing is. -/
theorem isFile_of_none (hclear : d.NoLinks (d.wayOf s)) (hnone : d.node? (d.placeOf s) = none) :
    d.isFile s = false := by
  cases hf : d.isFile s with
  | false => rfl
  | true =>
    obtain ⟨data, hdata⟩ := readBytes_of_isFile hf
    have hfile := (readBytes_place hclear hdata).1
    rw [hnone] at hfile
    cases hfile

/-- On a tree, a change that keeps the way of a path text that never goes up, and keeps the
place it ends at, either keeps every node on the way, or finds that place empty before and
after. -/
theorem Within.way_kept_or_empty {spots ways : List (List String)} (htree : d.Tree)
    (hdirect : Direct s) (hw : Within spots ways d d') (hway : ∀ q ∈ d.wayOf s, q ∉ spots)
    (hspot : d.placeOf s ∉ spots) (hplace : d.placeOf s ∉ ways) :
    (∀ q ∈ d.wayOf s, d'.node? q = d.node? q) ∨
      (d.node? (d.placeOf s) = none ∧ d'.node? (d'.placeOf s) = none) := by
  by_cases hall : ∀ q ∈ d.wayOf s, d.node? q ≠ none
  · exact .inl fun q hq => (hw.rest q (hway q hq)).resolve_right fun ⟨_, hn, _⟩ => hall q hq hn
  · obtain ⟨q, hq, hn⟩ : ∃ q ∈ d.wayOf s, d.node? q = none := by simpa using hall
    have hnone : d.node? (d.placeOf s) = none := htree.none_below hn (prefix_of_wayOf hdirect q hq)
    refine .inr ⟨hnone, ?_⟩
    rw [placeOf_of_cwd hw.cwd, hw.node?_eq hspot hplace, hnone]

/-- On a tree, a change that keeps the way of a path text that never goes up, and keeps the
place it ends at, keeps whether a regular file is there. -/
theorem isFile_stable {spots ways : List (List String)} (htree : d.Tree) (hdirect : Direct s)
    (hclear : d.NoLinks (d.wayOf s)) (hw : Within spots ways d d')
    (hway : ∀ q ∈ d.wayOf s, q ∉ spots) (hspot : d.placeOf s ∉ spots)
    (hplace : d.placeOf s ∉ ways) : d'.isFile s = d.isFile s := by
  rcases hw.way_kept_or_empty htree hdirect hway hspot hplace with hsame | ⟨hnone, hnone'⟩
  · exact isFile_congr hw.cwd hclear hsame
  · rw [isFile_of_none hclear hnone, isFile_of_none (hw.noLinks_wayOf hclear) hnone']

/-- Entries that all stand right below the root make a tree. -/
theorem tree_of_top (h : ∀ e ∈ d.entries, e.1.length = 1) : d.Tree := by
  intro p n hp hn
  rw [node?_of_ne_nil _ hp] at hn
  obtain ⟨e, hfind, -⟩ := Option.map_eq_some_iff.1 hn
  have hep : e.1 = p := by simpa using List.find?_some hfind
  have hlen : p.length = 1 := hep ▸ h e (List.mem_of_find?_eq_some hfind)
  obtain ⟨x, rfl⟩ := List.length_eq_one_iff.1 hlen
  rfl

theorem node?_ne_link (h : ∀ e ∈ d.entries, ∀ t, e.2 ≠ .link t) (q : List String) (t : String) :
    d.node? q ≠ some (.link t) := by
  intro hq
  by_cases hp : q = []
  · simp [node?, hp] at hq
  · rw [node?_of_ne_nil _ hp] at hq
    obtain ⟨e, hfind, he⟩ := Option.map_eq_some_iff.1 hq
    exact h e (List.mem_of_find?_eq_some hfind) t he

end FirmwareStamp.Disk
