import FirmwareStamp.Proofs.Hook.Publish
import FirmwareStamp.Cli.Show

/-!
The `show` report against the publisher. The report reads the version file only when it
is a regular file, and then only loads it, so it never writes. Its last line names the
product as the publisher would: a debug product by its bare name, and a release product
by the record in the version file, which the publisher loads the same way; so where both
succeed they name one path, and for a release target with a regular version file they
succeed together.
-/

namespace FirmwareStamp.Cli

open Version Hook Disk FirmwareStamp.Action

variable {d : Disk} {info : BuildInfo} {c : HookConfig} {color : Bool}

/-- A report that was made left the disk alone and ends with the product's path, named
after the record of the version file when it is a regular file. -/
theorem renderShow_ok {text : String} {d' : Disk}
    (h : (renderShow info c color).run d = (.ok text, d')) :
    d' = d ∧ ∃ r pre, text = pre ++ label color "Artifact:" ++ " " ++
        Path.join c.outputDir (artifactFileName c.target (some r)) ++ "\n" ∧
      (d.isFile c.versionFile = true → c.store.load.run d = (.ok r, d)) := by
  unfold renderShow at h
  simp only [run_bind, run_get] at h
  split at h
  · rename_i hfile
    have hload := load_run_present (s := c.store) (present_of_isFile hfile)
    rw [run_bind] at h
    rcases hres : c.store.load.run d with ⟨e | r, d1⟩
    · rw [hres] at h
      simp at h
    · have hd1 : d1 = d := by rw [hres] at hload; exact (Prod.mk.inj hload).2
      rw [hres] at h
      simp only [run_pure, run_bind, run_get, Prod.mk.injEq, Except.ok.injEq] at h
      obtain ⟨rfl, rfl⟩ := h
      exact ⟨hd1, r, _, rfl, fun _ => by rw [hd1]⟩
  · rename_i hfile
    simp only [run_pure, run_bind, run_get, Prod.mk.injEq, Except.ok.injEq] at h
    obtain ⟨rfl, rfl⟩ := h
    exact ⟨rfl, _, _, rfl, fun h' => absurd h' hfile⟩

/-- A report fails only where the version file is a regular file that does not load, and
then the disk is as it was. -/
theorem renderShow_error {e : VersionError} {d' : Disk}
    (h : (renderShow info c color).run d = (.error e, d')) :
    d' = d ∧ d.isFile c.versionFile = true ∧ c.store.load.run d = (.error e, d) := by
  unfold renderShow at h
  simp only [run_bind, run_get] at h
  split at h
  · rename_i hfile
    have hload := load_run_present (s := c.store) (present_of_isFile hfile)
    rw [run_bind] at h
    rcases hres : c.store.load.run d with ⟨e' | r, d1⟩
    · have hd1 : d1 = d := by rw [hres] at hload; exact (Prod.mk.inj hload).2
      rw [hres] at h
      simp only [Prod.mk.injEq, Except.error.injEq] at h
      obtain ⟨rfl, rfl⟩ := h
      exact ⟨hd1, hfile, by rw [hd1]⟩
    · rw [hres] at h
      simp only [run_pure, run_bind, run_get, Prod.mk.injEq, reduceCtorEq, false_and] at h
  · simp only [run_pure, run_bind, run_get, Prod.mk.injEq, reduceCtorEq, false_and] at h

theorem renderShow_of_load {r : Record} (hfile : d.isFile c.versionFile = true)
    (hload : c.store.load.run d = (.ok r, d)) :
    ∃ text, (renderShow info c color).run d = (.ok text, d) := by
  unfold renderShow
  simp only [run_bind, run_get, hfile, if_true, hload, run_pure]
  exact ⟨_, rfl⟩

/-- The report writes nothing; where it and the publisher both find a destination, its last
line names the publisher's; and for a release target whose version file is a regular file,
the report is made exactly when the publisher finds a destination. -/
theorem show_names_destination (info : BuildInfo) (c : HookConfig) (color : Bool) (d : Disk) :
    ((renderShow info c color).run d).2 = d ∧
    (∀ text dst d1 d2, (renderShow info c color).run d = (.ok text, d1) →
      (c.publisher.destination c.target).run d = (.ok dst, d2) →
      ∃ pre, text = pre ++ label color "Artifact:" ++ " " ++ dst ++ "\n") ∧
    (c.target.isDebug = false → d.isFile c.versionFile = true →
      ((∃ text, ((renderShow info c color).run d).1 = .ok text) ↔
        ∃ dst, ((c.publisher.destination c.target).run d).1 = .ok dst)) := by
  have hkeep : ((renderShow info c color).run d).2 = d := by
    rcases hres : (renderShow info c color).run d with ⟨e | text, d'⟩
    · exact (renderShow_error hres).1
    · exact (renderShow_ok hres).1
  refine ⟨hkeep, ?_, ?_⟩
  · intro text dst d1 d2 hshow hdst
    obtain ⟨-, r, pre, rfl, hload⟩ := renderShow_ok hshow
    refine ⟨pre, ?_⟩
    cases hdebug : c.target.isDebug
    · obtain ⟨-, hfile, r', hload', rfl⟩ := destination_release_ok hdebug hdst
      simp only [HookConfig.publisher_store, HookConfig.publisher_outputDir] at hfile hload' ⊢
      rw [hload hfile] at hload'
      cases hload'
      rfl
    · rw [destination_run, if_pos hdebug] at hdst
      cases hdst
      rw [artifactFileName_debug hdebug, HookConfig.publisher_outputDir]
  · intro hdebug hfile
    constructor
    · rintro ⟨text, htext⟩
      have hshow : (renderShow info c color).run d = (.ok text, d) := Prod.ext htext hkeep
      obtain ⟨-, r, -, -, hload⟩ := renderShow_ok hshow
      refine ⟨Path.join c.outputDir (artifactFileName c.target (some r)), ?_⟩
      have hp : d.present c.publisher.store.path = true := present_of_isFile hfile
      rw [destination_run, if_neg (by simp [hdebug]), if_pos hp]
      simp only [HookConfig.publisher_store, HookConfig.publisher_outputDir, hload hfile]
    · rintro ⟨dst, hdst⟩
      have hrun : (c.publisher.destination c.target).run d =
          (.ok dst, ((c.publisher.destination c.target).run d).2) := Prod.ext hdst rfl
      obtain ⟨-, -, r, hload, -⟩ := destination_release_ok hdebug hrun
      obtain ⟨text, hshow⟩ : ∃ text, (renderShow info c color).run d = (.ok text, d) :=
        renderShow_of_load hfile hload
      exact ⟨text, by rw [hshow]⟩

theorem plainEnd_readText : plainEnd.readText "v.json" = .ok plainRecord.renderJson := by
  have hmax : ¬ pathMax ≤ "v.json".utf8ByteSize := by decide
  have hshort : tooLong "v.json" = false := by decide
  have hroot : Path.hasRoot "v.json" = false := by decide
  have hnode : plainEnd.node? ["v.json"] = some (.file plainRecord.renderJson.toUTF8.toList) := by
    simp [plainEnd, Disk.node?]
  have hloc : plainEnd.locate true "v.json" =
      .ok (.found ["v.json"] (.file plainRecord.renderJson.toUTF8.toList) false) := by
    simp [hmax, hshort, hroot, show plainEnd.cwd = [] from rfl, Disk.locate, Disk.locateWith,
      Disk.walk, hnode, pieces_v, Disk.wantsDir]
  exact readText_found hloc

/-- After the plain build the report on its release hook is made, and so the publisher
finds a destination. -/
theorem plain_show_names_destination :
    plainHook.target.isDebug = false ∧ plainEnd.isFile plainHook.versionFile = true ∧
      (∃ text, ((renderShow ⟨"0", "now"⟩ plainHook false).run plainEnd).1 = .ok text) ∧
      ∃ dst, ((plainHook.publisher.destination plainHook.target).run plainEnd).1 = .ok dst := by
  have hdebug : plainHook.target.isDebug = false := by decide
  have hfile : plainEnd.isFile plainHook.versionFile = true := isFile_of_readText plainEnd_readText
  have hload : plainHook.store.load.run plainEnd = (.ok plainRecord, plainEnd) :=
    load_present (present_of_isFile hfile) plainEnd_readText (Json.parseJson_renderJson plainRecord)
  obtain ⟨text, hshow⟩ : ∃ text, (renderShow ⟨"0", "now"⟩ plainHook false).run plainEnd =
      (.ok text, plainEnd) := renderShow_of_load hfile hload
  have htext : ∃ text, ((renderShow ⟨"0", "now"⟩ plainHook false).run plainEnd).1 = .ok text :=
    ⟨text, by rw [hshow]⟩
  exact ⟨hdebug, hfile, htext,
    ((show_names_destination ⟨"0", "now"⟩ plainHook false plainEnd).2.2 hdebug hfile).mp htext⟩

end FirmwareStamp.Cli
