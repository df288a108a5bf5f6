import FirmwareStamp.Disk.Basic
import FirmwareStamp.Proofs.Version.Split

/-!
The parent of a path text, as the text it is written as. The parent drops whole pieces
with their slashes from the end of the text and keeps the rest as written, so the text is
its parent followed by a cut at a slash: its pieces are the parent's pieces and then more,
and a parent that is not empty starts at the same root.
-/

namespace FirmwareStamp.Path

open Version

/-- The text is cut between two pieces: one side is empty, or the cut falls at a slash. -/
def AtSlash (a b : List Char) : Prop :=
  a = [] ∨ b = [] ∨ a.getLast? = some '/' ∨ b.head? = some '/'

theorem pieces_append {a b : List Char} (h : AtSlash a b) :
    Disk.pieces (String.ofList (a ++ b)) =
      Disk.pieces (String.ofList a) ++ Disk.pieces (String.ofList b) := by
  simp only [Disk.pieces, String.toList_ofList]
  rcases h with rfl | rfl | ha | hb
  · simp [splitAt]
  · simp [splitAt]
  · obtain ⟨a', rfl⟩ := List.getLast?_eq_some_iff.1 ha
    rw [List.append_assoc, List.singleton_append, splitAt_append_sep, splitAt_append_sep]
    simp [splitAt]
  · obtain ⟨b', rfl⟩ : ∃ b', b = '/' :: b' := by
      cases b with
      | nil => simp at hb
      | cons c b' => simp at hb; exact ⟨b', by rw [hb]⟩
    rw [splitAt_append_sep]
    simp [splitAt]

/-- `r` is what is left of a reversed text `rb` after whole pieces were taken off its
front: what was taken ends in a slash, or nothing was taken, or nothing is left. -/
def Trims (rb r : List Char) : Prop :=
  ∃ x, rb = x ++ r ∧ (x = [] ∨ r = [] ∨ x.getLast? = some '/')

theorem Trims.refl (rb : List Char) : Trims rb rb := ⟨[], rfl, Or.inl rfl⟩

theorem Trims.trans {a b c : List Char} (hab : Trims a b) (hbc : Trims b c) : Trims a c := by
  obtain ⟨x, rfl, hx⟩ := hab
  obtain ⟨y, rfl, hy⟩ := hbc
  refine ⟨x ++ y, by simp, ?_⟩
  rcases hy with rfl | hc | hy
  · simpa using hx
  · exact Or.inr (Or.inl hc)
  · refine Or.inr (Or.inr ?_)
    rw [List.getLast?_append, hy]
    rfl

theorem trims_lastPiece (rb : List Char) : Trims rb (rb.drop (lastPiece rb).2) := by
  have hsplit : rb.takeWhile (· != '/') ++ rb.dropWhile (· != '/') = rb :=
    List.takeWhile_append_dropWhile
  unfold lastPiece
  generalize rb.takeWhile (· != '/') = tw at hsplit ⊢
  dsimp only
  split
  · rename_i hlt
    obtain ⟨c, rest, hrest⟩ : ∃ c rest, rb.dropWhile (· != '/') = c :: rest := by
      cases h : rb.dropWhile (· != '/') with
      | nil =>
        rw [h, List.append_nil] at hsplit
        rw [hsplit] at hlt
        simp at hlt
      | cons c rest => exact ⟨c, rest, rfl⟩
    have hc : c = '/' := by
      have := List.head?_dropWhile_not (· != '/') rb
      rw [hrest] at this
      simpa using this
    subst hc
    rw [hrest] at hsplit
    subst hsplit
    refine ⟨tw ++ ['/'], by simp, Or.inr (Or.inr (by simp))⟩
  · rename_i hge
    have hlen : tw.length = rb.length := by
      have := congrArg List.length hsplit
      simp at this
      omega
    exact ⟨rb, by simp [hlen], Or.inr (Or.inl (by simp [hlen]))⟩

theorem trims_trimTail (fuel : Nat) (rb : List Char) : Trims rb (trimTail fuel rb) := by
  fun_induction trimTail fuel rb with
  | case1 => exact Trims.refl _
  | case2 => exact Trims.refl _
  | case3 fuel rb _ piece size hlast _ ih =>
    have hstep := trims_lastPiece rb
    rw [hlast] at hstep
    exact hstep.trans ih
  | case4 => exact Trims.refl _

theorem atSlash_head (cs : List Char) : AtSlash (cs.take (headLength cs)) (cs.drop (headLength cs)) := by
  unfold headLength
  split <;> simp [AtSlash]

/-- The parent of a text is a front part of it, cut at a slash. -/
theorem parent?_prefix {s t : String} (h : parent? s = some t) :
    ∃ y, s.toList = t.toList ++ y ∧ AtSlash t.toList y := by
  unfold parent? at h
  dsimp only at h
  split at h
  · obtain rfl : t = "" := by split at h <;> simp_all
    exact ⟨s.toList, by simp, Or.inl rfl⟩
  · simp only [Option.some.injEq] at h
    subst h
    rw [String.toList_ofList]
    generalize s.toList = cs
    generalize hrb : (cs.drop (headLength cs)).reverse = rb
    have h1 := trims_trimTail rb.length rb
    generalize trimTail rb.length rb = rb1 at h1 ⊢
    have h2 := trims_lastPiece rb1
    generalize rb1.drop (lastPiece rb1).2 = rb2 at h2 ⊢
    have h3 := trims_trimTail rb2.length rb2
    generalize trimTail rb2.length rb2 = r at h3 ⊢
    obtain ⟨x, hx, hcut⟩ := h1.trans (h2.trans h3)
    have hbody : cs.drop (headLength cs) = r.reverse ++ x.reverse := by
      rw [← List.reverse_reverse (cs.drop _), hrb, hx, List.reverse_append]
    refine ⟨x.reverse, ?_, ?_⟩
    · calc cs = cs.take (headLength cs) ++ cs.drop (headLength cs) := (List.take_append_drop _ _).symm
        _ = _ := by rw [hbody, List.append_assoc]
    · rcases hcut with rfl | rfl | hlast
      · exact Or.inr (Or.inl rfl)
      · have hhead := atSlash_head cs
        simpa [hbody] using hhead
      · exact Or.inr (Or.inr (Or.inr (by simp [List.head?_reverse, hlast])))

example : parent? "a//b///" = some "a" := by decide

example : parent? "./x/." = some "." := by decide

theorem pieces_of_parent? {s t : String} (h : parent? s = some t) :
    ∃ rest, Disk.pieces s = Disk.pieces t ++ rest := by
  obtain ⟨y, hs, hcut⟩ := parent?_prefix h
  refine ⟨Disk.pieces (String.ofList y), ?_⟩
  calc Disk.pieces s = Disk.pieces (String.ofList (t.toList ++ y)) := by
        rw [← hs, String.ofList_toList]
    _ = _ := by rw [pieces_append hcut, String.ofList_toList]

theorem hasRoot_of_parent? {s t : String} (h : parent? s = some t) (ht : t ≠ "") :
    hasRoot t = hasRoot s := by
  obtain ⟨y, hs, -⟩ := parent?_prefix h
  obtain ⟨c, cs, hc⟩ := List.exists_cons_of_ne_nil (by simpa using ht : t.toList ≠ [])
  simp [hasRoot, hs, hc]

/-- `a` is `s` or a text reached from `s` by taking parents one after another: the texts
a directory maker visits on its way up from `s`. -/
inductive Above : String → String → Prop
  | refl (s : String) : Above s s
  | up {a s par : String} : parent? s = some par → Above a par → Above a s

end FirmwareStamp.Path
