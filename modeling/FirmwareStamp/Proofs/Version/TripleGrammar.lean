import FirmwareStamp.Version.Reconcile
import FirmwareStamp.Proofs.Version.Split

/-!
The grammar of version triples. A text spells the numbers `M.m.p` when, its blanks at both
ends removed, it is three segments joined by dots, and each segment, its own blanks removed,
is a decimal word: an optional plus sign and one or more ASCII digits whose value, leading
zeros allowed, fits in 32 bits (`SpellsTriple`). Main statements: reading a triple succeeds
exactly on the texts that spell it, the text of a triple reads back as that triple, and a
manifest's version agrees with a record exactly when its text spells the record's numbers,
so `1.02.3` agrees with a record at `1.2.3`.
-/

namespace FirmwareStamp.Version

/-! ### Decimal words -/

/-- `cs` is a decimal word of value `n`: an optional plus sign, then one or more ASCII digits
that read as `n`, leading zeros allowed, and `n` fits in 32 bits. -/
def IsWord (cs : List Char) (n : Nat) : Prop :=
  ∃ ds, (cs = ds ∨ cs = '+' :: ds) ∧ ds ≠ [] ∧ (∀ d ∈ ds, d.isDigit = true) ∧
    Nat.ofDigitChars 10 ds 0 = n ∧ n ≤ 4294967295

theorem digitsValue_eq_ofDigitChars (cs : List Char) :
    digitsValue cs = Nat.ofDigitChars 10 cs 0 := by
  simp only [digitsValue, Nat.ofDigitChars, Nat.mul_comm]

/-- The sign is taken off only when it is there; a list of digits keeps its head. -/
theorem unsignedDigits_cases (cs : List Char) :
    cs = unsignedDigits cs ∨ cs = '+' :: unsignedDigits cs := by
  unfold unsignedDigits
  split
  · exact .inr rfl
  · exact .inl rfl

theorem unsignedDigits_of_digits {ds : List Char} (h : ∀ d ∈ ds, d.isDigit = true) :
    unsignedDigits ds = ds := by
  cases ds with
  | nil => rfl
  | cons c rest =>
    have hc : c ≠ '+' := fun hc => by simpa [hc] using h c List.mem_cons_self
    simp [unsignedDigits, hc]

/-- A word in terms of what reading takes off its front: the sign, if there is one. -/
theorem isWord_iff {cs : List Char} {n : Nat} :
    IsWord cs n ↔ unsignedDigits cs ≠ [] ∧ (∀ d ∈ unsignedDigits cs, d.isDigit = true) ∧
      Nat.ofDigitChars 10 (unsignedDigits cs) 0 = n ∧ n ≤ 4294967295 := by
  constructor
  · rintro ⟨ds, rfl | rfl, hne, hdig, hval, hle⟩
    · rw [unsignedDigits_of_digits hdig]
      exact ⟨hne, hdig, hval, hle⟩
    · exact ⟨hne, hdig, hval, hle⟩
  · rintro ⟨hne, hdig, hval, hle⟩
    exact ⟨_, unsignedDigits_cases cs, hne, hdig, hval, hle⟩

/-- Reading a word succeeds exactly on the decimal words, and gives their value. -/
theorem parseWord?_eq_some_iff (s : String) (w : UInt32) :
    parseWord? s = some w ↔ IsWord s.toList w.toNat := by
  have hw : w.toNat < 4294967296 := w.toNat_lt
  have hpow : Nat.pow 2 32 = 4294967296 := rfl
  rw [isWord_iff, ← digitsValue_eq_ofDigitChars]
  simp only [parseWord?, hpow, List.all_eq_true]
  constructor
  · intro h
    split at h
    · rename_i hcond
      obtain ⟨hne, hdig, hlt⟩ := hcond
      simp only [Option.some.injEq] at h
      subst h
      refine ⟨hne, hdig, ?_, ?_⟩ <;> simp [Nat.toUInt32] <;> omega
    · cases h
  · rintro ⟨hne, hdig, hval, hle⟩
    rw [if_pos ⟨hne, hdig, by omega⟩, hval]
    simp [Nat.toUInt32]

/-! ### Triples -/

/-- `s` spells the numbers `M`, `m`, `p`: its blanks at both ends removed, it is three
segments joined by dots, and each segment, its own blanks removed, is a decimal word of the
number in its place. -/
def SpellsTriple (s : String) (M m p : Nat) : Prop :=
  ∃ a b c, Text.trimList s.toList = a ++ '.' :: (b ++ '.' :: c) ∧ '.' ∉ a ∧ '.' ∉ b ∧
    '.' ∉ c ∧ IsWord (Text.trimList a) M ∧ IsWord (Text.trimList b) m ∧
    IsWord (Text.trimList c) p

theorem parseWord?_trim (cs : List Char) (w : UInt32) :
    parseWord? (Text.trim (String.ofList cs)) = some w ↔ IsWord (Text.trimList cs) w.toNat := by
  rw [parseWord?_eq_some_iff, Text.trim, String.toList_ofList, String.toList_ofList]

/-- Reading a triple succeeds exactly on the texts that spell it. -/
theorem parse?_eq_some_iff (s : String) (t : Triple) :
    Triple.parse? s = some t ↔ SpellsTriple s t.major.toNat t.minor.toNat t.patch.toNat := by
  constructor
  · intro h
    unfold Triple.parse? at h
    split at h
    · rename_i a b c hsplit
      obtain ⟨hcs, ha, hb, hc⟩ := splitAt_eq_three_iff.mp hsplit
      simp only [bind, Option.bind_eq_some_iff, pure, Option.some.injEq] at h
      obtain ⟨major, hM, minor, hm, patch, hp, rfl⟩ := h
      exact ⟨a, b, c, hcs, ha, hb, hc, (parseWord?_trim a major).mp hM,
        (parseWord?_trim b minor).mp hm, (parseWord?_trim c patch).mp hp⟩
    · cases h
  · rintro ⟨a, b, c, hcs, ha, hb, hc, hM, hm, hp⟩
    rw [Triple.parse?, splitAt_eq_three_iff.mpr ⟨hcs, ha, hb, hc⟩]
    dsimp only
    rw [(parseWord?_trim a _).mpr hM, (parseWord?_trim b _).mpr hm, (parseWord?_trim c _).mpr hp]
    rfl

/- Leading zeros, a plus sign and blanks around a segment are all read. -/
example : Triple.parse? " 01.+002. 3\n" = some ⟨1, 2, 3⟩ := by decide +kernel

/-! ### The text of a triple -/

theorem isBlank_of_isDigit {c : Char} (h : c.isDigit = true) : Text.isBlank c = false := by
  simp only [Char.isDigit, Bool.and_eq_true, decide_eq_true_eq] at h
  have h0 : 48 ≤ c.toNat := h.1
  have h9 : c.toNat ≤ 57 := h.2
  simp only [Text.isBlank]
  grind

/-- Trimming keeps a text with no blank in it. -/
theorem trimList_of_forall {cs : List Char} (h : ∀ c ∈ cs, Text.isBlank c = false) :
    Text.trimList cs = cs := by
  have hdrop : ∀ l : List Char, (∀ c ∈ l, Text.isBlank c = false) →
      l.dropWhile Text.isBlank = l := by
    intro l hl
    cases l with
    | nil => rfl
    | cons c l => exact List.dropWhile_cons_of_neg (by simp [hl c List.mem_cons_self])
  unfold Text.trimList
  rw [hdrop cs h, hdrop cs.reverse (by simpa using h), List.reverse_reverse]

theorem wordText_toList (w : UInt32) : (wordText w).toList = Nat.toDigits 10 w.toNat := by
  simp [wordText, Nat.toString_eq_repr, Nat.toList_repr]

theorem isDigit_of_mem_wordText {w : UInt32} {d : Char} (h : d ∈ (wordText w).toList) :
    d.isDigit = true := by
  rw [wordText_toList] at h
  exact Nat.isDigit_of_mem_toDigits (by decide) (by decide) h

theorem dot_not_mem_wordText (w : UInt32) : '.' ∉ (wordText w).toList := fun h => by
  simpa using isDigit_of_mem_wordText h

/-- The decimal text of a word is a word of its value. -/
theorem isWord_wordText (w : UInt32) : IsWord (wordText w).toList w.toNat := by
  have hw : w.toNat < 4294967296 := w.toNat_lt
  refine ⟨_, .inl rfl, ?_, fun d hd => isDigit_of_mem_wordText hd, ?_, by omega⟩
  · rw [wordText_toList]
    exact Nat.toDigits_ne_nil
  · rw [wordText_toList, Nat.ofDigitChars_ten_toDigits]

/-- The text of a triple reads back as the triple. -/
theorem parse?_render (t : Triple) : Triple.parse? t.render = some t := by
  have hrender : t.render.toList = (wordText t.major).toList ++
      '.' :: ((wordText t.minor).toList ++ '.' :: (wordText t.patch).toList) := by
    simp [Triple.render]
  have hword : ∀ w : UInt32, Text.trimList (wordText w).toList = (wordText w).toList :=
    fun w => trimList_of_forall fun c hc => isBlank_of_isDigit (isDigit_of_mem_wordText hc)
  have hplain : ∀ c ∈ t.render.toList, Text.isBlank c = false := by
    intro c hc
    rw [hrender] at hc
    simp only [List.mem_append, List.mem_cons] at hc
    rcases hc with hc | rfl | hc | rfl | hc
    all_goals first
      | exact isBlank_of_isDigit (isDigit_of_mem_wordText hc)
      | decide
  rw [parse?_eq_some_iff]
  refine ⟨_, _, _, by rw [trimList_of_forall hplain, hrender], dot_not_mem_wordText _,
    dot_not_mem_wordText _, dot_not_mem_wordText _, ?_, ?_, ?_⟩ <;>
    rw [hword] <;> exact isWord_wordText _

/-! ### Agreeing with a record -/

/-- A manifest's version text agrees with a record exactly when it spells the record's
numbers: the comparison is by value, not by text. -/
theorem agrees_iff_spells (s : String) (r : Record) :
    (∃ t, Triple.parse? s = some t ∧ (Lookup.version t).agrees r = some true) ↔
      SpellsTriple s r.major.toNat r.minor.toNat r.patch.toNat := by
  constructor
  · rintro ⟨t, ht, hagree⟩
    have htr : t = r.triple := by simpa [Lookup.agrees] using hagree
    subst htr
    exact (parse?_eq_some_iff s _).mp ht
  · intro h
    exact ⟨r.triple, (parse?_eq_some_iff s r.triple).mpr h, by simp [Lookup.agrees]⟩

/-- Reading a version triple: a text reads as a triple exactly when it spells the triple's
numbers, the text of every triple reads back as it, and a manifest's version text agrees
with a record exactly when it spells the record's numbers. -/
theorem triple_reads_spelled_numbers :
    (∀ s t, Triple.parse? s = some t ↔
      SpellsTriple s t.major.toNat t.minor.toNat t.patch.toNat) ∧
    (∀ t : Triple, Triple.parse? t.render = some t) ∧
    (∀ s (r : Record), (∃ t, Triple.parse? s = some t ∧ (Lookup.version t).agrees r = some true) ↔
      SpellsTriple s r.major.toNat r.minor.toNat r.patch.toNat) :=
  ⟨parse?_eq_some_iff, parse?_render, agrees_iff_spells⟩

/- `1.02.3` agrees with a record at `1.2.3`. -/
example : (Triple.parse? "1.02.3").map (fun t => (Lookup.version t).agrees ⟨"fw", 1, 2, 3, 9⟩) =
    some (some true) := by
  decide +kernel

end FirmwareStamp.Version
