import FirmwareStamp.Proofs.Disk.Descend

/-!
The components of a joined path text. A text cut where a slash stands keeps the components
of its first part, its root or current-directory head included, and adds those of the
rest. So a proper name, not empty, without a slash and neither `.` nor `..`, joined to any
text is exactly one more component of it: joining never climbs, never restarts at the root
and never adds two levels (`components_join`).
-/

namespace FirmwareStamp.Path

open Version

theorem bodyComponents_append {a b : List Char} (h : AtSlash a b) :
    bodyComponents (a ++ b) = bodyComponents a ++ bodyComponents b := by
  unfold bodyComponents
  rcases h with rfl | rfl | ha | hb
  · simp [splitAt, pieceComponent]
  · simp [splitAt, pieceComponent]
  · obtain ⟨a', rfl⟩ := List.getLast?_eq_some_iff.1 ha
    rw [List.append_assoc, List.singleton_append, splitAt_append_sep, splitAt_append_sep]
    simp [splitAt, pieceComponent]
  · obtain ⟨b', rfl⟩ := List.head?_eq_some_iff.1 hb
    rw [splitAt_append_sep]
    simp [splitAt, pieceComponent]

theorem bodyComponents_slash (b : List Char) : bodyComponents ('/' :: b) = bodyComponents b := by
  simp [bodyComponents, splitAt, pieceComponent]

theorem pieceComponent_name {n : String} (h : Disk.ProperName n) :
    pieceComponent n.toList = some (.name n) := by
  obtain ⟨⟨hne, -⟩, hdot, hup⟩ := h
  have h1 : n.toList ≠ [] := by simpa using hne
  have h2 : n.toList ≠ ['.'] := fun e => hdot (String.toList_injective (by simpa using e))
  have h3 : n.toList ≠ ['.', '.'] := fun e => hup (String.toList_injective (by simpa using e))
  simp [pieceComponent, h1, h2, h3]

theorem bodyComponents_name {n : String} (h : Disk.ProperName n) :
    bodyComponents n.toList = [.name n] := by
  simp [bodyComponents, splitAt_of_not_mem h.1.2, pieceComponent_name h]

/-- A text that starts with no root and no `.` piece is all body. -/
theorem components_of_body {cs : List Char} (h1 : cs.head? ≠ some '/') (h2 : cs ≠ ['.'])
    (h3 : cs.take 2 ≠ ['.', '/']) : components (String.ofList cs) = bodyComponents cs := by
  unfold components
  rw [String.toList_ofList]
  split
  · simp at h1
  · exact absurd rfl h2
  · simp at h3
  · rfl

theorem components_name {n : String} (h : Disk.ProperName n) : components n = [.name n] := by
  have hslash : '/' ∉ n.toList := h.1.2
  have hdot : n.toList ≠ ['.'] := fun e => h.2.1 (String.toList_injective (by simpa using e))
  have h1 : n.toList.head? ≠ some '/' := fun e => hslash (List.mem_of_head? e)
  have h3 : n.toList.take 2 ≠ ['.', '/'] := by
    intro e
    have hmem : '/' ∈ n.toList.take 2 := by rw [e]; simp
    exact hslash (List.mem_of_mem_take hmem)
  have hbody := components_of_body h1 hdot h3
  rw [String.ofList_toList] at hbody
  rw [hbody, bodyComponents_name h]

theorem atSlash_of_cons {c : Char} {rest b : List Char}
    (h : (c :: rest).getLast? = some '/' ∨ b.head? = some '/') : AtSlash rest b := by
  rcases h with h | h
  · cases rest with
    | nil => exact Or.inl rfl
    | cons d more => exact Or.inr (Or.inr (Or.inl (by simpa [List.getLast?_cons_cons] using h)))
  · exact Or.inr (Or.inr (Or.inr h))

/-- A text cut where a slash stands keeps the components of its first part, root or `.`
included, and adds those of the rest. -/
theorem components_append {a b : List Char} (ha : a ≠ [])
    (hcut : a.getLast? = some '/' ∨ b.head? = some '/') :
    components (String.ofList (a ++ b)) = components (String.ofList a) ++ bodyComponents b := by
  obtain ⟨c, rest, rfl⟩ := List.exists_cons_of_ne_nil ha
  have hrest := atSlash_of_cons hcut
  by_cases hroot : c = '/'
  · subst hroot
    simp [components, bodyComponents_append hrest]
  by_cases hcur : c = '.'
  · subst hcur
    cases rest with
    | nil =>
      obtain ⟨b', rfl⟩ : ∃ b', b = '/' :: b' := by
        rcases hcut with h | h
        · simp at h
        · exact List.head?_eq_some_iff.1 h
      simp [components, bodyComponents_slash]
    | cons d more =>
      by_cases hd : d = '/'
      · subst hd
        have hmore : AtSlash more b :=
          atSlash_of_cons (hcut.imp_left fun h => by rwa [List.getLast?_cons_cons] at h)
        simp [components, bodyComponents_append hmore]
      · have hbody : ∀ x, components (String.ofList ('.' :: d :: x)) =
            bodyComponents ('.' :: d :: x) :=
          fun x => components_of_body (by simp) (by simp) (by simp [hd])
        have hsplit := bodyComponents_append (Or.inr (Or.inr hcut) : AtSlash ('.' :: d :: more) b)
        rw [List.cons_append, List.cons_append] at hsplit ⊢
        rw [hbody, hbody, hsplit]
  · have hbody : ∀ x, components (String.ofList (c :: x)) = bodyComponents (c :: x) :=
      fun x => components_of_body (by simp [hroot]) (by simp [hcur]) (by cases x <;> simp [hcur])
    rw [List.cons_append, hbody, hbody, ← List.cons_append,
      bodyComponents_append (Or.inr (Or.inr hcut))]

/-- A proper name joined to a text is one more component of it. -/
theorem components_join {n : String} (h : Disk.ProperName n) (s : String) :
    components (join s n) = components s ++ [.name n] := by
  unfold join
  rw [Disk.hasRoot_plain h.1]
  simp only [Bool.false_eq_true, ↓reduceIte]
  split
  · rename_i hs
    obtain rfl : s = "" := by simpa using hs
    rw [components_name h]
    rfl
  · rename_i hs
    have hne : s.toList ≠ [] := by simpa using hs
    split
    · rename_i hlast
      have hcut := components_append (b := n.toList) hne (Or.inl (by simpa using hlast))
      rwa [String.ofList_toList, bodyComponents_name h, ← String.toList_append,
        String.ofList_toList] at hcut
    · have hcut := components_append (b := '/' :: n.toList) hne (Or.inr rfl)
      have hstr : String.ofList (s.toList ++ '/' :: n.toList) = s ++ "/" ++ n := by
        simp [String.ofList_append, String.append_assoc]
      rwa [String.ofList_toList, bodyComponents_slash, bodyComponents_name h, hstr] at hcut

/- A current-directory head stays in front of the joined name. -/
example : components (join "./out/" "fw.bin") = [.current, .name "out", .name "fw.bin"] := by
  decide +kernel

/-- `s` names an entry directly inside the directory `dir`: it is `dir` joined with one
proper name, which is one more component of `dir` and one more piece of it as the disk
looks it up. -/
def ChildOf (s dir : String) : Prop :=
  ∃ n, Disk.ProperName n ∧ s = join dir n ∧ components s = components dir ++ [.name n] ∧
    Disk.pieces s = Disk.pieces dir ++ [n]

theorem childOf_join {n : String} (h : Disk.ProperName n) (dir : String) :
    ChildOf (join dir n) dir :=
  ⟨n, h, rfl, components_join h dir, Disk.pieces_join h.1 dir⟩

end FirmwareStamp.Path
