import FirmwareStamp.Version.Triple

/-!
Cutting a text at a separator. No piece holds the separator, the pieces joined by the
separator give the text back, and there is one piece more than the text has separators; a
text cut into three pieces is three separator-free texts joined by two separators, and a
text is cut at its last separator in one way only.
-/

namespace FirmwareStamp.Version

section Split

variable {sep : Char}

theorem splitAt_append_sep (a b : List Char) :
    splitAt sep (a ++ sep :: b) = splitAt sep a ++ splitAt sep b := by
  induction a with
  | nil => simp [splitAt]
  | cons c rest ih =>
    simp only [List.cons_append, splitAt]
    split
    · simp [ih]
    · rw [ih]
      have hne := splitAt_ne_nil sep rest
      cases h : splitAt sep rest with
      | nil => exact absurd h hne
      | cons first others => simp

theorem splitAt_of_not_mem {a : List Char} (ha : sep ∉ a) : splitAt sep a = [a] := by
  induction a with
  | nil => rfl
  | cons c a ih =>
    have hc : c ≠ sep := fun h => ha (h ▸ List.mem_cons_self)
    simp [splitAt, hc, ih (fun h => ha (List.mem_cons_of_mem c h))]

theorem splitAt_cons_of_ne {c : Char} (hc : c ≠ sep) {rest first : List Char}
    {others : List (List Char)} (h : splitAt sep rest = first :: others) :
    splitAt sep (c :: rest) = (c :: first) :: others := by
  simp [splitAt, hc, h]

/-- No piece holds the separator. -/
theorem not_mem_of_mem_splitAt {cs p : List Char} (hp : p ∈ splitAt sep cs) : sep ∉ p := by
  induction cs generalizing p with
  | nil => simp_all [splitAt]
  | cons c rest ih =>
    by_cases hc : c = sep
    · simp only [splitAt, hc, if_true, List.mem_cons] at hp
      rcases hp with rfl | hp
      · simp
      · exact ih hp
    · obtain ⟨first, others, hsplit⟩ := List.exists_cons_of_ne_nil (splitAt_ne_nil sep rest)
      rw [splitAt_cons_of_ne hc hsplit, List.mem_cons] at hp
      rcases hp with rfl | hp
      · have hfirst : sep ∉ first := ih (hsplit ▸ List.mem_cons_self)
        simp [Ne.symm hc, hfirst]
      · exact ih (hsplit ▸ List.mem_cons_of_mem first hp)

theorem intercalate_cons_head (c : Char) (first : List Char) (others : List (List Char)) :
    [sep].intercalate ((c :: first) :: others) = c :: [sep].intercalate (first :: others) := by
  cases others <;> simp [List.intercalate_cons_cons]

/-- The pieces joined by the separator give the text back. -/
theorem intercalate_splitAt (cs : List Char) : [sep].intercalate (splitAt sep cs) = cs := by
  induction cs with
  | nil => simp [splitAt]
  | cons c rest ih =>
    obtain ⟨first, others, hsplit⟩ := List.exists_cons_of_ne_nil (splitAt_ne_nil sep rest)
    by_cases hc : c = sep
    · subst hc
      rw [hsplit] at ih
      simp [splitAt, hsplit, List.intercalate_cons_cons, ih]
    · rw [splitAt_cons_of_ne hc hsplit, intercalate_cons_head, ← hsplit, ih]

/-- A text cuts into exactly three pieces when it is three separator-free pieces joined by
two separators. -/
theorem splitAt_eq_three_iff {cs a b c : List Char} :
    splitAt sep cs = [a, b, c] ↔
      cs = a ++ sep :: (b ++ sep :: c) ∧ sep ∉ a ∧ sep ∉ b ∧ sep ∉ c := by
  constructor
  · intro h
    have hcs : [sep].intercalate (splitAt sep cs) = cs := intercalate_splitAt cs
    have hfree : ∀ q ∈ [a, b, c], sep ∉ q := fun q hq => not_mem_of_mem_splitAt (h ▸ hq)
    rw [h] at hcs
    exact ⟨by simpa [List.intercalate_cons_cons] using hcs.symm, hfree a (by simp),
      hfree b (by simp), hfree c (by simp)⟩
  · rintro ⟨rfl, ha, hb, hc⟩
    rw [splitAt_append_sep, splitAt_append_sep, splitAt_of_not_mem ha, splitAt_of_not_mem hb,
      splitAt_of_not_mem hc]
    rfl

/-- A text has one last separator: what follows it and what stands before it are
determined by the text. -/
theorem append_sep_inj {a b x y : List Char} (hx : sep ∉ x) (hy : sep ∉ y)
    (h : a ++ sep :: x = b ++ sep :: y) : a = b ∧ x = y := by
  have hcut := congrArg (splitAt sep) h
  rw [splitAt_append_sep, splitAt_append_sep, splitAt_of_not_mem hx,
    splitAt_of_not_mem hy] at hcut
  obtain ⟨hab, hxy⟩ := List.append_inj' hcut rfl
  refine ⟨?_, List.singleton_inj.mp hxy⟩
  calc a = [sep].intercalate (splitAt sep a) := (intercalate_splitAt a).symm
    _ = [sep].intercalate (splitAt sep b) := by rw [hab]
    _ = b := intercalate_splitAt b

/-- Lines each ended by the separator cut back into the lines and an empty rest. -/
theorem splitAt_flatMap_lines {ls : List (List Char)} (h : ∀ l ∈ ls, sep ∉ l) :
    splitAt sep (ls.flatMap (· ++ [sep])) = ls ++ [[]] := by
  induction ls with
  | nil => rfl
  | cons l ls ih =>
    rw [List.flatMap_cons, List.append_assoc, List.singleton_append, splitAt_append_sep,
      splitAt_of_not_mem (h l List.mem_cons_self),
      ih (fun l' hl' => h l' (List.mem_cons_of_mem l hl')), List.singleton_append,
      List.cons_append]

/-- There is one more piece than there are separators. -/
theorem length_splitAt (cs : List Char) : (splitAt sep cs).length = cs.count sep + 1 := by
  induction cs with
  | nil => rfl
  | cons c rest ih =>
    obtain ⟨first, others, hsplit⟩ := List.exists_cons_of_ne_nil (splitAt_ne_nil sep rest)
    by_cases hc : c = sep
    · subst hc
      simp [splitAt, ih]
    · rw [hsplit, List.length_cons] at ih
      rw [splitAt_cons_of_ne hc hsplit, List.length_cons, List.count_cons, ih]
      simp [hc]

end Split

end FirmwareStamp.Version
