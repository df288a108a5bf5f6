import FirmwareStamp.Proofs.Disk.Making
import FirmwareStamp.Proofs.Version.Session

/-!
A saved record loads back, and saving what was loaded changes nothing. The text written
reads as the record whatever its name holds (`parseJson_renderJson`). Saving makes the
directories above the version file, which are then there, so that making them again
changes nothing; writing the file rewrites one place that held a file or nothing, which
leaves those directories where they were; and writing the same text through the same path
again puts the same file back at the same place.
-/

namespace FirmwareStamp.Version

open Disk FirmwareStamp.Action

variable {d d' : Disk}

/-- After the directories above a file were made without a failure, every parent text with
a name is made. -/
theorem makeParents_leaves_made {ε : Type} {path : String} {wrap : String → IoError → ε}
    (h : (makeParents path wrap).run d = (.ok (), d')) :
    ∀ par, Path.parent? path = some par → par.isEmpty = false → d'.Made par := by
  intro par hpar hne
  unfold makeParents at h
  simp only [hpar, hne, Bool.false_eq_true, ↓reduceIte, run_attemptPartly] at h
  rcases hc : (d.createDirAll par).2 with _ | e
  · rw [hc] at h
    simp only [Prod.mk.injEq] at h
    rw [← h.2]
    exact createDirAll_made hc
  · simp [hc] at h

/-- Where every parent text with a name is made, making the directories above a file
changes nothing. -/
theorem makeParents_of_made {ε : Type} {path : String} {wrap : String → IoError → ε}
    (h : ∀ par, Path.parent? path = some par → par.isEmpty = false → d.Made par) :
    (makeParents path wrap).run d = (.ok (), d) := by
  unfold makeParents
  rcases hpar : Path.parent? path with _ | par
  · rfl
  · cases hne : par.isEmpty
    · simp only [hne, Bool.false_eq_true, ↓reduceIte, run_attemptPartly,
        createDirAll_of_made (h par hpar hne)]
    · simp [hne]

/-- A record saved reads back through the same store, and loading writes nothing. -/
theorem load_after_save {s : Store} {r : Record} (h : (s.save r).run d = (.ok (), d')) :
    s.load.run d' = (.ok r, d') := by
  have htext := writeFile_readText h
  exact load_present (present_of_isFile (isFile_of_readText htext)) htext
    (Json.parseJson_renderJson r)

/-- Saving a record again right after it was saved changes nothing. -/
theorem save_again {s : Store} {r : Record} (h : (s.save r).run d = (.ok (), d')) :
    (s.save r).run d' = (.ok (), d') := by
  unfold Store.save writeFile at h ⊢
  obtain ⟨u, d1, hm, hw⟩ := run_bind_ok h
  rw [run_attempt] at hw
  split at hw
  · rename_i d2 hwrite
    simp only [Prod.mk.injEq] at hw
    obtain ⟨-, rfl⟩ := hw
    obtain ⟨p, hp, rfl⟩ : ∃ p, d1.writePlace s.path = .ok p ∧
        d2 = d1.put p (.file r.renderJson.toUTF8.toList) := by
      unfold writeText writeBytes at hwrite
      cases hp : d1.writePlace s.path <;> simp_all [Except.map]
    obtain ⟨hne, hleaf⟩ := writePlace_leaf hp
    have hr := (rewrites_put hne hleaf r.renderJson.toUTF8.toList).1
    have hmade : ∀ par, Path.parent? s.path = some par → par.isEmpty = false →
        (d1.put p (.file r.renderJson.toUTF8.toList)).Made par := by
      intro par hpar hne'
      rcases makeParents_leaves_made hm par hpar hne' with hcomp | hdir
      · exact Or.inl hcomp
      · exact Or.inr (isDir_rewrites hr hdir)
    simp only [run_bind, makeParents_of_made hmade, run_attempt, writeText_again hwrite]
  · simp at hw

/-- The text of a record reads back as the record, whatever its name holds; so a record
saved loads back as itself without a write, and saving what was loaded leaves the disk,
and the file, as they were. -/
theorem saved_record_reloads (r : Record) :
    Record.parseJson r.renderJson = .ok r ∧
    ∀ (s : Store) (d d' : Disk), (s.save r).run d = (.ok (), d') →
      s.load.run d' = (.ok r, d') ∧ (s.load >>= s.save).run d' = (.ok (), d') := by
  refine ⟨Json.parseJson_renderJson r, fun s d d' h => ⟨load_after_save h, ?_⟩⟩
  rw [run_bind, load_after_save h]
  exact save_again h

/-- A record whose name holds a quote, a backslash, a line break and a letter beyond ASCII,
with its build counter at the top. -/
def quotedRecord : Record := ⟨"say \"hi\"\\\nété", 1, 2, 3, 4294967295⟩

/-- The blank disk after the quoted record was saved to `v.json`. -/
def quotedDisk : Disk := ⟨[(["v.json"], .file quotedRecord.renderJson.toUTF8.toList)], []⟩

theorem quoted_record_reloads :
    (Store.save ⟨"v.json", "fw"⟩ quotedRecord).run blankDisk = (.ok (), quotedDisk) ∧
    (Store.load ⟨"v.json", "fw"⟩).run quotedDisk = (.ok quotedRecord, quotedDisk) ∧
    (Store.load ⟨"v.json", "fw"⟩ >>= Store.save ⟨"v.json", "fw"⟩).run quotedDisk =
      (.ok (), quotedDisk) := by
  have hsave : (Store.save ⟨"v.json", "fw"⟩ quotedRecord).run blankDisk = (.ok (), quotedDisk) := by
    refine writeFile_of (makeParents_top parent_v) ?_
    simp +decide [Disk.writeText, Disk.writeBytes, Disk.writePlace, Disk.locate,
      Disk.locateWith, blankDisk, Disk.walk, Disk.node?, pieces_v, Disk.wantsDir, Disk.put,
      Except.map, quotedDisk]
  exact ⟨hsave, (saved_record_reloads quotedRecord).2 _ _ _ hsave⟩

end FirmwareStamp.Version
