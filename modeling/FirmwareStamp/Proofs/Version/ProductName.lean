import FirmwareStamp.Proofs.Version.TripleGrammar
import FirmwareStamp.Proofs.Version.Publishing
import FirmwareStamp.Proofs.Path.Components

/-!
The file names of published products. A name is the target's name, a blank, and then either
`(firmware).bin` or the long version in brackets. The long version is digits and dots, so the
last blank of a name is the one before the bracket, and a name splits back into the target's
name and its version in one way only: no two targets, and no two release versions of one
target, share a name (`artifactFileName_injective`).

A name holds a slash only where the target's name does. A target whose name holds none is
published directly inside the output directory: the destination is the output directory
joined with one proper name (`destination_childOf_output`). A target named with a `..` piece
or a root is not (`climbing_target_leaves_output`).
-/

namespace FirmwareStamp.Version

open Hook

/-! ### The long version -/

theorem wordText_inj {a b : UInt32} (h : wordText a = wordText b) : a = b := by
  have hdigits : Nat.toDigits 10 a.toNat = Nat.toDigits 10 b.toNat := by
    rw [← wordText_toList, ← wordText_toList, h]
  have hval : a.toNat = b.toNat := calc
    a.toNat = Nat.ofDigitChars 10 (Nat.toDigits 10 a.toNat) 0 :=
        Nat.ofDigitChars_ten_toDigits.symm
    _ = Nat.ofDigitChars 10 (Nat.toDigits 10 b.toNat) 0 := by rw [hdigits]
    _ = b.toNat := Nat.ofDigitChars_ten_toDigits
  exact UInt32.toNat_inj.mp hval

namespace Record

theorem longString_toList (r : Record) :
    r.longString.toList = r.triple.render.toList ++ '.' :: (wordText r.build).toList := by
  simp [longString, versionString]

theorem mem_longString {r : Record} {c : Char} (h : c ∈ r.longString.toList) :
    c.isDigit = true ∨ c = '.' := by
  simp only [longString_toList, triple, Triple.render, String.toList_append, List.mem_append,
    List.mem_cons] at h
  have hword : ∀ w : UInt32, c ∈ (wordText w).toList → c.isDigit = true ∨ c = '.' :=
    fun w hw => .inl (isDigit_of_mem_wordText hw)
  have hdot : c ∈ ".".toList → c.isDigit = true ∨ c = '.' :=
    fun hd => .inr (by simpa using hd)
  rcases h with ((((h | h) | h) | h) | h) | h | h
  · exact hword _ h
  · exact hdot h
  · exact hword _ h
  · exact hdot h
  · exact hword _ h
  · exact .inr h
  · exact hword _ h

/-- The long version gives the release triple and the build number back: the build follows
the last dot, and the triple reads back from what stands before it. -/
theorem longString_inj {r s : Record} (h : r.longString = s.longString) :
    r.triple = s.triple ∧ r.build = s.build := by
  have hcut := congrArg String.toList h
  rw [longString_toList, longString_toList] at hcut
  obtain ⟨htriple, hbuild⟩ :=
    append_sep_inj (dot_not_mem_wordText _) (dot_not_mem_wordText _) hcut
  refine ⟨?_, wordText_inj (String.toList_injective hbuild)⟩
  have hread := parse?_render r.triple
  rw [String.toList_injective htriple, parse?_render] at hread
  exact (Option.some.inj hread).symm

/-- A character that is neither a digit nor a dot is not in the long version. -/
theorem not_mem_longString {r : Record} {c : Char} (hd : c.isDigit = false) (hdot : c ≠ '.') :
    c ∉ r.longString.toList := fun h =>
  (mem_longString h).elim (fun e => absurd e (by simp [hd])) hdot

/-- What follows the blank in a release name holds no blank. -/
theorem blank_not_mem_longTail (r : Record) : ' ' ∉ (r.longString ++ ").bin").toList := by
  rw [String.toList_append, List.mem_append, not_or]
  exact ⟨not_mem_longString (by decide) (by decide), by decide⟩

/-- A release name never ends as a debug name does: the version holds no bracket. -/
theorem longTail_ne (r : Record) :
    (r.longString ++ ").bin").toList ≠ "(firmware).bin".toList := by
  intro h
  have hlong : r.longString.toList = "(firmware".toList := by
    have hsplit : "(firmware).bin".toList = "(firmware".toList ++ ").bin".toList := by decide
    rw [hsplit, String.toList_append] at h
    exact List.append_cancel_right h
  have hmem : '(' ∈ r.longString.toList := by rw [hlong]; decide
  exact not_mem_longString (by decide) (by decide) hmem

end Record

/-! ### Names are injective -/

/-- A release name cut at its last blank: the target's name with the bracket's first word,
then the version. -/
theorem releaseName_toList {t : Target} (h : t.isDebug = false) (r : Record) :
    (artifactFileName t (some r)).toList =
      (t.name ++ " (firmware").toList ++ ' ' :: (r.longString ++ ").bin").toList := by
  simp [artifactFileName, h]

/-- A debug name cut at its last blank: the target's name, then the fixed tail. -/
theorem debugName_toList {t : Target} (h : t.isDebug = true) (r : Record) :
    (artifactFileName t (some r)).toList = t.name.toList ++ ' ' :: "(firmware).bin".toList := by
  simp [artifactFileName, h]

/-- Two products get one name only when they are for one target and, for a release
target, of one version: major, minor, patch and build. -/
theorem artifactFileName_injective {t₁ t₂ : Target} {r₁ r₂ : Record}
    (h : artifactFileName t₁ (some r₁) = artifactFileName t₂ (some r₂)) :
    t₁ = t₂ ∧ (t₁.isDebug = false →
      r₁.major = r₂.major ∧ r₁.minor = r₂.minor ∧ r₁.patch = r₂.patch ∧ r₁.build = r₂.build) := by
  have hcut := congrArg String.toList h
  have hdebug : ' ' ∉ "(firmware).bin".toList := by decide
  cases h₁ : t₁.isDebug <;> cases h₂ : t₂.isDebug
  · rw [releaseName_toList h₁, releaseName_toList h₂] at hcut
    obtain ⟨hhead, htail⟩ := append_sep_inj (Record.blank_not_mem_longTail r₁)
      (Record.blank_not_mem_longTail r₂) hcut
    have hname : t₁.name = t₂.name := by
      rw [String.toList_append, String.toList_append] at hhead
      exact String.toList_injective (List.append_cancel_right hhead)
    have hlong : r₁.longString = r₂.longString := by
      rw [String.toList_append, String.toList_append] at htail
      exact String.toList_injective (List.append_cancel_right htail)
    obtain ⟨htriple, hbuild⟩ := Record.longString_inj hlong
    simp only [Record.triple, Triple.mk.injEq] at htriple
    obtain ⟨n₁⟩ := t₁
    obtain ⟨n₂⟩ := t₂
    exact ⟨congrArg Target.mk hname, fun _ => ⟨htriple.1, htriple.2.1, htriple.2.2, hbuild⟩⟩
  · rw [releaseName_toList h₁, debugName_toList h₂] at hcut
    exact absurd (append_sep_inj (Record.blank_not_mem_longTail r₁) hdebug hcut).2
      (Record.longTail_ne r₁)
  · rw [debugName_toList h₁, releaseName_toList h₂] at hcut
    exact absurd (append_sep_inj (Record.blank_not_mem_longTail r₂) hdebug hcut.symm).2
      (Record.longTail_ne r₂)
  · rw [debugName_toList h₁, debugName_toList h₂] at hcut
    have hname : t₁.name = t₂.name := String.toList_injective (List.append_cancel_right hcut)
    obtain ⟨n₁⟩ := t₁
    obtain ⟨n₂⟩ := t₂
    exact ⟨congrArg Target.mk hname, fun h => absurd h (by decide)⟩

/-- Records of two projects at one version name a release product alike. -/
theorem release_name_ignores_project :
    artifactFileName ⟨"esp"⟩ (some ⟨"a", 1, 2, 3, 9⟩) =
        artifactFileName ⟨"esp"⟩ (some ⟨"b", 1, 2, 3, 9⟩) ∧
      (⟨"esp"⟩ : Target) = ⟨"esp"⟩ ∧ ((⟨"esp"⟩ : Target).isDebug = false →
        (1 : UInt32) = 1 ∧ (2 : UInt32) = 2 ∧ (3 : UInt32) = 3 ∧ (9 : UInt32) = 9) := by
  have h : artifactFileName ⟨"esp"⟩ (some ⟨"a", 1, 2, 3, 9⟩) =
      artifactFileName ⟨"esp"⟩ (some ⟨"b", 1, 2, 3, 9⟩) := rfl
  exact ⟨h, artifactFileName_injective h⟩

/-! ### Where a product is published -/

/-- Every name is the target's name followed by a text without a slash and `).bin`. -/
theorem artifactFileName_shape (t : Target) (v : Option Record) :
    ∃ mid : String, artifactFileName t v = t.name ++ mid ++ ").bin" ∧ '/' ∉ mid.toList := by
  have hplain : '/' ∉ " (firmware".toList := by decide
  rcases v with _ | r
  · exact ⟨" (firmware", by simp [artifactFileName, String.append_assoc], hplain⟩
  cases hdebug : t.isDebug
  · refine ⟨" (firmware " ++ r.longString,
      by simp [artifactFileName, hdebug, String.append_assoc], ?_⟩
    rw [String.toList_append, List.mem_append, not_or]
    exact ⟨by decide, Record.not_mem_longString (by decide) (by decide)⟩
  · exact ⟨" (firmware", by simp [artifactFileName, hdebug, String.append_assoc], hplain⟩

/-- A name holds a slash only where the target's name does, and it is never `.` or `..`. -/
theorem properName_artifactFileName {t : Target} (ht : '/' ∉ t.name.toList) (v : Option Record) :
    Disk.ProperName (artifactFileName t v) := by
  obtain ⟨mid, hname, hmid⟩ := artifactFileName_shape t v
  have hshort : ∀ s : String, s.length < 5 → artifactFileName t v ≠ s := by
    intro s hs e
    have htail : ").bin".length = 5 := by decide
    have hlen := congrArg String.length (hname.symm.trans e)
    rw [String.length_append, String.length_append, htail] at hlen
    omega
  refine ⟨⟨hshort "" (by decide), ?_⟩, hshort "." (by decide), hshort ".." (by decide)⟩
  rw [hname, String.toList_append, String.toList_append]
  simp only [List.mem_append, not_or]
  exact ⟨⟨ht, hmid⟩, by decide⟩

/-- A destination that was found is the output directory joined with the product's name,
after the record read or none. -/
theorem destination_ok_join {p : Publisher} {t : Target} {d d' : Disk} {dst : String}
    (h : (p.destination t).run d = (.ok dst, d')) :
    ∃ v, dst = Path.join p.outputDir (artifactFileName t v) := by
  cases hdebug : t.isDebug
  · obtain ⟨-, -, r, -, rfl⟩ := destination_release_ok hdebug h
    exact ⟨some r, rfl⟩
  · rw [destination_run, if_pos hdebug] at h
    exact ⟨none, (Except.ok.inj (Prod.mk.inj h).1).symm⟩

/-- A target whose name holds no slash is published directly inside the output directory:
the destination that was found, which a publication that succeeded copied to, is the
output directory joined with one proper name. -/
theorem destination_childOf_output (p : Publisher) (t : Target) (d : Disk)
    (ht : '/' ∉ t.name.toList) :
    (∀ dst d', (p.destination t).run d = (.ok dst, d') → Path.ChildOf dst p.outputDir) ∧
      (∀ dst d', (p.publish t).run d = (.ok dst, d') → Path.ChildOf dst p.outputDir) := by
  have hdst : ∀ dst d', (p.destination t).run d = (.ok dst, d') →
      Path.ChildOf dst p.outputDir := by
    intro dst d' h
    obtain ⟨v, rfl⟩ := destination_ok_join h
    exact Path.childOf_join (properName_artifactFileName ht v) p.outputDir
  exact ⟨hdst, fun dst d' h => hdst dst d (publish_ok h).2.1⟩

/-- A publisher into `out` with a version file `v.json`. -/
def outPublisher : Publisher := ⟨⟨"v.json", "x"⟩, "fw.bin", "out"⟩

theorem plain_target_childOf_output :
    '/' ∉ "esp_debug".toList ∧
      (∀ dst d', (outPublisher.destination ⟨"esp_debug"⟩).run ⟨[], []⟩ = (.ok dst, d') →
        Path.ChildOf dst outPublisher.outputDir) ∧
      (∀ dst d', (outPublisher.publish ⟨"esp_debug"⟩).run ⟨[], []⟩ = (.ok dst, d') →
        Path.ChildOf dst outPublisher.outputDir) :=
  ⟨by decide,
    destination_childOf_output outPublisher ⟨"esp_debug"⟩ ⟨[], []⟩ (by decide)⟩

/-- A debug target named `../esp_debug` is published beside the output directory, not in
it: its destination is two components more than the output directory, the first a climb. -/
theorem climbing_target_leaves_output :
    (outPublisher.destination ⟨"../esp_debug"⟩).run ⟨[], []⟩ =
        (.ok "out/../esp_debug (firmware).bin", ⟨[], []⟩) ∧
      Path.components "out/../esp_debug (firmware).bin" =
        Path.components outPublisher.outputDir ++ [.up, .name "esp_debug (firmware).bin"] ∧
      ¬ ∃ c, Path.components "out/../esp_debug (firmware).bin" =
        Path.components outPublisher.outputDir ++ [c] := by
  have hcomp : Path.components "out/../esp_debug (firmware).bin" =
      Path.components outPublisher.outputDir ++ [.up, .name "esp_debug (firmware).bin"] := by
    decide +kernel
  refine ⟨?_, hcomp, ?_⟩
  · rw [destination_run, if_pos (by decide +kernel)]
    rfl
  · rintro ⟨c, hc⟩
    rw [hcomp] at hc
    simp at hc

end FirmwareStamp.Version
