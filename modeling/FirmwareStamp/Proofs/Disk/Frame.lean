import FirmwareStamp.Disk.Ops

/-!
What a lookup on a disk depends on. A walk passes only through directories and links
and ends at one place, so the node it reports there is the node of the disk, and a disk
that keeps every directory and link and puts another file at that place gives the same
walk ending at the new file: a written file reads back. Changes are described by which
places they may touch and where they may make directories.
-/

namespace FirmwareStamp

/-- The nodes a walk goes through rather than ends at: directories and links. -/
def Node.opens : Node → Bool
  | .dir => true
  | .link _ => true
  | .file _ => false

/-- The physical path a place stands for. -/
def Place.path : Place → List String
  | .found p _ _ => p
  | .missing p _ => p

/-- What a place holds: the node found, or nothing. -/
def Place.entry : Place → Option Node
  | .found _ n _ => some n
  | .missing _ _ => none

/-- Whether a place is asked for as a directory. -/
def Place.slash : Place → Bool
  | .found _ _ s => s
  | .missing _ s => s

namespace Disk

@[simp] theorem node?_nil (d : Disk) : d.node? [] = some .dir := by
  simp [node?]

theorem node?_of_ne_nil (d : Disk) {p : List String} (hp : p ≠ []) :
    d.node? p = (d.entries.find? (·.1 == p)).map (·.2) := by
  simp [node?, hp]

theorem node?_put (d : Disk) {p q : List String} (n : Node) (hp : p ≠ []) :
    (d.put p n).node? q = if q = p then some n else d.node? q := by
  by_cases hq : q = []
  · subst hq
    simp [node?, Ne.symm hp]
  rw [node?_of_ne_nil _ hq, node?_of_ne_nil _ hq, put]
  split
  · rename_i hany
    have hfst : ∀ e : List String × Node, (if e.1 == p then (p, n) else e).1 = e.1 := by
      intro e
      split <;> simp_all
    simp only [List.find?_map, Function.comp_def, hfst, Option.map_map]
    cases hf : d.entries.find? (·.1 == q) with
    | none =>
      have hnone := List.find?_eq_none.1 hf
      split
      · subst q
        obtain ⟨e, he, hep⟩ := List.any_eq_true.1 hany
        exact absurd hep (hnone e he)
      · rfl
    | some e =>
      have he : e.1 = q := by simpa using List.find?_some hf
      split <;> simp_all
  · rename_i hany
    rw [List.find?_append]
    split
    · subst q
      have hnone : d.entries.find? (·.1 == p) = none := by
        simp only [List.find?_eq_none]
        intro e he hep
        exact hany (List.any_eq_true.2 ⟨e, he, hep⟩)
      simp [hnone]
    · have hne : ¬ (p == q) = true := by simpa using Ne.symm ‹¬q = p›
      simp [hne]

theorem node?_erase (d : Disk) (p q : List String) :
    (d.erase p).node? q = if q = p ∧ q ≠ [] then none else d.node? q := by
  by_cases hq : q = []
  · subst hq
    simp [node?]
  rw [node?_of_ne_nil _ hq, node?_of_ne_nil _ hq, erase]
  simp only [hq, ne_eq, not_false_eq_true, and_true]
  rw [List.find?_filter]
  split
  · subst q
    have hnone : d.entries.find? (fun e => decide ((e.1 != p) = true ∧ (e.1 == p) = true)) = none := by
      simp
    simp only [hnone, Option.map_none]
  · rename_i hqp
    have hsame : (fun e : List String × Node => decide ((e.1 != p) = true ∧ (e.1 == q) = true)) =
        fun e => e.1 == q := by
      funext e
      by_cases he : e.1 = q <;> simp [he, hqp]
    rw [hsame]

@[simp] theorem put_cwd (d : Disk) (p : List String) (n : Node) : (d.put p n).cwd = d.cwd := by
  unfold put
  split <;> rfl

@[simp] theorem erase_cwd (d : Disk) (p : List String) : (d.erase p).cwd = d.cwd := rfl

/-- Setting a node twice leaves the second. -/
theorem put_put (d : Disk) (p : List String) (n m : Node) : (d.put p n).put p m = d.put p m := by
  unfold put
  by_cases h : d.entries.any (·.1 == p) = true
  · have h' : (d.entries.map fun e => if e.1 == p then (p, n) else e).any (·.1 == p) = true := by
      obtain ⟨e, he, hep⟩ := List.any_eq_true.1 h
      exact List.any_eq_true.2 ⟨_, List.mem_map_of_mem he, by simp_all⟩
    simp only [h, h', if_true, List.map_map, Function.comp_def]
    congr 2
    funext e
    by_cases he : e.1 = p <;> simp [he]
  · have hall : ∀ e ∈ d.entries, ¬ (e.1 == p) = true := fun e he hep =>
      h (List.any_eq_true.2 ⟨e, he, hep⟩)
    have h' : (d.entries ++ [(p, n)]).any (·.1 == p) = true := by simp
    simp only [h, h', if_true, Bool.false_eq_true, if_false, List.map_append, List.map_cons,
      List.map_nil, beq_self_eq_true]
    congr 2
    rw [List.map_congr_left (fun e he => if_neg (hall e he)), List.map_id']

/-- A walk reports the node of the disk at the place it ends, unless it stopped at a
directory it was already in. -/
theorem walk_entry (d : Disk) (f w : Bool) (links : Nat) (cur cs : List String) (pl : Place) :
    d.walk f w links cur cs = .ok pl → pl.entry ≠ some .dir → d.node? pl.path = pl.entry := by
  fun_induction d.walk f w links cur cs generalizing pl with
  | case4 | case6 | case7 | case13 | case14 | case16 | case17 | case18 => nofun
  | case1 | case2 | case3 | case5 | case9 | case10 =>
    rintro ⟨⟩
    simp_all +zetaDelta [Place.path, Place.entry]
  | case8 | case11 | case12 | case15 | case19 => simp_all

/-- A walk that ended at a file or at an empty place ends at the same place, with the new
node, on a disk that keeps every directory and link and holds a file or a directory
there. -/
theorem walk_refill {d d' : Disk}
    (hkeep : ∀ q n, d.node? q = some n → n.opens = true → d'.node? q = some n)
    {m : Node} (hm : ∀ t, m ≠ .link t) (f w : Bool) (links : Nat) (cur cs : List String)
    (pl : Place) :
    d.walk f w links cur cs = .ok pl → pl.entry ≠ some .dir → d'.node? pl.path = some m →
    d'.walk f w links cur cs = .ok (.found pl.path m pl.slash) := by
  fun_induction d.walk f w links cur cs generalizing pl with
  | case1 | case2 | case3 =>
    rintro ⟨⟩
    simp [Place.entry]
  | case4 | case6 | case7 | case13 | case14 | case16 | case17 | case18 => nofun
  | case5 | case9 | case10 =>
    rintro ⟨⟩ hpl hp
    cases m <;> simp_all +zetaDelta [walk, Node.opens, Place.path, Place.slash, Place.entry]
  | case8 | case11 | case12 | case15 | case19 =>
    intro hw hpl hp
    rw [walk]
    simp_all +zetaDelta [Node.opens]

/-- A walk that ended at a file or at an empty place ends at the same place, now empty, on a
disk that keeps every directory and link and holds nothing there. -/
theorem walk_vacate {d d' : Disk}
    (hkeep : ∀ q n, d.node? q = some n → n.opens = true → d'.node? q = some n)
    (f w : Bool) (links : Nat) (cur cs : List String) (pl : Place) :
    d.walk f w links cur cs = .ok pl → pl.entry ≠ some .dir → d'.node? pl.path = none →
    d'.walk f w links cur cs = .ok (.missing pl.path pl.slash) := by
  fun_induction d.walk f w links cur cs generalizing pl with
  | case1 | case2 | case3 =>
    rintro ⟨⟩
    simp [Place.entry]
  | case4 | case6 | case7 | case13 | case14 | case16 | case17 | case18 => intro h; cases h
  | case5 | case9 | case10 =>
    rintro ⟨⟩ hpl hp
    simp_all +zetaDelta [walk, Node.opens, Place.path, Place.slash, Place.entry]
  | case8 | case11 | case12 | case15 | case19 =>
    intro hw hpl hp
    rw [walk]
    simp_all +zetaDelta [Node.opens]

/-- Where the lookup of a path text starts: the root or the working directory. -/
def base (d : Disk) (s : String) : List String := if Path.hasRoot s then [] else d.cwd

/-- A path text the system looks up at all: no NUL byte, shorter than `pathMax`, not
empty. -/
def Admits (s : String) : Prop :=
  Char.ofNat 0 ∉ s.toList ∧ s.utf8ByteSize < pathMax ∧ s ≠ ""

theorem base_of_cwd {d d' : Disk} (h : d'.cwd = d.cwd) (s : String) : d'.base s = d.base s := by
  simp [base, h]

theorem locateWith_of_admits (d : Disk) (f w : Bool) {s : String} (hs : Admits s) :
    d.locateWith f w s = d.walk f w linkLimit (d.base s) (pieces s) := by
  obtain ⟨hnul, hsize, hempty⟩ := hs
  simp [locateWith, base, hnul, hempty, Nat.not_le.2 hsize]

theorem admits_of_locateWith {d : Disk} {f w : Bool} {s : String} {pl : Place}
    (h : d.locateWith f w s = .ok pl) : Admits s := by
  unfold locateWith at h
  split at h
  · simp at h
  split at h
  · simp at h
  split at h
  · simp at h
  refine ⟨?_, ?_, ?_⟩ <;> simp_all

/-- What a write goes through: a lookup that ends, not asked for as a directory, at a file
or at an empty place. -/
theorem writePlace_ok {d : Disk} {s : String} {p : List String} (h : d.writePlace s = .ok p) :
    ∃ pl, d.locate true s = .ok pl ∧ pl.path = p ∧ pl.slash = false ∧
      ∀ n, pl.entry = some n → n.opens = false := by
  unfold writePlace at h
  split at h <;> simp_all [Place.path, Place.entry, Place.slash, Node.opens]

/-- A file write reaches a place other than the root that holds a file or nothing. -/
theorem writePlace_leaf {d : Disk} {s : String} {p : List String} (h : d.writePlace s = .ok p) :
    p ≠ [] ∧ ∀ n, d.node? p = some n → n.opens = false := by
  obtain ⟨pl, hloc, rfl, -, hleaf⟩ := writePlace_ok h
  rw [locate, locateWith_of_admits _ _ _ (admits_of_locateWith hloc)] at hloc
  have hnode := walk_entry d _ _ _ _ _ _ hloc fun he => by simpa [Node.opens] using hleaf _ he
  refine ⟨fun hnil => ?_, fun n hn => hleaf n (hnode ▸ hn)⟩
  rw [hnil, node?_nil] at hnode
  simpa [Node.opens] using hleaf _ hnode.symm

/-- A file written through a path text is found through it, at the place the write
reached. -/
theorem locate_put_writePlace {d : Disk} {s : String} {p : List String}
    (h : d.writePlace s = .ok p) (data : List UInt8) :
    (d.put p (.file data)).locate true s = .ok (.found p (.file data) false) := by
  obtain ⟨hne, hleafp⟩ := writePlace_leaf h
  obtain ⟨pl, hloc, rfl, hslash, hleaf⟩ := writePlace_ok h
  have hadm := admits_of_locateWith hloc
  rw [locate, locateWith_of_admits _ _ _ hadm] at hloc
  have hkeep : ∀ q n, d.node? q = some n → n.opens = true →
      (d.put pl.path (.file data)).node? q = some n := by
    intro q n hq hn
    rw [node?_put _ _ hne, if_neg]
    · exact hq
    · rintro rfl
      simp [hleafp n hq] at hn
  have hwalk := walk_refill hkeep (m := .file data) (fun _ h => by cases h) _ _ _ _ _ _ hloc
    (fun he => by simpa [Node.opens] using hleaf _ he) (by rw [node?_put _ _ hne]; simp)
  rw [locate, locateWith_of_admits _ _ _ hadm, base_of_cwd (put_cwd _ _ _), hwalk, hslash]

/-- A file written through a path text reads back through it. -/
theorem writeBytes_readBytes {d d' : Disk} {s : String} {data : List UInt8}
    (h : d.writeBytes s data = .ok d') : d'.readBytes s = .ok data := by
  obtain ⟨p, hp, rfl⟩ : ∃ p, d.writePlace s = .ok p ∧ d' = d.put p (.file data) := by
    unfold writeBytes at h
    cases hp : d.writePlace s <;> simp_all [Except.map]
  simp [readBytes, locate_put_writePlace hp data, Except.bind, Place.node]

theorem isFile_of_readBytes {d : Disk} {s : String} {data : List UInt8}
    (h : d.readBytes s = .ok data) : d.isFile s = true := by
  unfold readBytes at h
  unfold isFile stat
  split at h <;> simp_all

theorem isFile_of_readText {d : Disk} {s text : String} (h : d.readText s = .ok text) :
    d.isFile s = true := by
  unfold readText at h
  split at h
  · exact isFile_of_readBytes ‹_›
  · simp at h

theorem present_of_isFile {d : Disk} {s : String} (h : d.isFile s = true) : d.present s = true := by
  unfold isFile at h
  unfold present
  split at h <;> simp_all

theorem toList_loop (b : ByteArray) (i : Nat) (r : List UInt8) :
    ByteArray.toList.loop b i r = r.reverse ++ b.data.toList.drop i := by
  fun_induction ByteArray.toList.loop b i r with
  | case1 i r h ih =>
    have hs : i < b.data.size := h
    have hd : b.data.toList.drop i = b.data.toList[i] :: b.data.toList.drop (i + 1) :=
      List.drop_eq_getElem_cons (by simpa using hs)
    rw [ih, hd]
    simp only [ByteArray.get!]
    rw [getElem!_pos b.data i hs]
    simp
  | case2 i r h =>
    have : b.data.toList.length ≤ i := by simpa using h
    simp [List.drop_eq_nil_of_le this]

/-- The bytes of a text decode back to it. -/
theorem decodeUtf8_toByteArray (t : String) : decodeUtf8 t.toByteArray.toList = some t := by
  rw [decodeUtf8, ByteArray.toList, toList_loop]
  simp only [String.fromUTF8?, List.reverse_nil, List.nil_append, List.drop_zero,
    Array.toArray_toList]
  exact dif_pos t.isValidUTF8

/-- A text written through a path reads back through it. -/
theorem writeText_readText {d d' : Disk} {s text : String} (h : d.writeText s text = .ok d') :
    d'.readText s = .ok text := by
  simp [readText, writeBytes_readBytes h, decodeUtf8_toByteArray]

/-- Writing a text again where it was just written finds the same place and puts the same
file back: nothing changes. -/
theorem writeText_again {d d' : Disk} {s text : String} (h : d.writeText s text = .ok d') :
    d'.writeText s text = .ok d' := by
  obtain ⟨p, hp, rfl⟩ : ∃ p, d.writePlace s = .ok p ∧ d' = d.put p (.file text.toUTF8.toList) := by
    unfold writeText writeBytes at h
    cases hp : d.writePlace s <;> simp_all [Except.map]
  have hp' : (d.put p (.file text.toUTF8.toList)).writePlace s = .ok p := by
    simp [writePlace, locate_put_writePlace hp]
  rw [writeText, writeBytes, hp']
  simp [Except.map, put_put]

end Disk

end FirmwareStamp
