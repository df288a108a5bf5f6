import FirmwareStamp.Proofs.Disk.Change
import FirmwareStamp.Version.Reconciler

/-!
What each step of the version tool does to the disk. A step on a disk is read through
`Action.run`; a sequence that succeeded splits into its steps, each on the disk the one
before left, and one that failed into a failing step. Writing a file with its
directories changes the place of the file and makes directories on its way; loading
reads the version file or saves the initial record; bootstrapping writes the header only
where no file is; the version step loads, bootstraps, reconciles, persists and removes
the main object in that order, and fails in one of these.
-/

namespace FirmwareStamp.Action

variable {ε α β : Type}

@[simp] theorem run_pure (a : α) (d : Disk) : (pure a : Action ε α).run d = (.ok a, d) := rfl

@[simp] theorem run_get (d : Disk) : (get : Action ε Disk).run d = (.ok d, d) := rfl

@[simp] theorem run_set (d d' : Disk) : (set d' : Action ε PUnit).run d = (.ok ⟨⟩, d') := rfl

@[simp] theorem run_throw (e : ε) (d : Disk) : (throw e : Action ε α).run d = (.error e, d) :=
  rfl

theorem run_bind (x : Action ε α) (f : α → Action ε β) (d : Disk) :
    (x >>= f).run d =
      match x.run d with
      | (.ok a, d') => (f a).run d'
      | (.error e, d') => (.error e, d') := by
  simp only [run, ExceptT.run, bind, ExceptT.bind, ExceptT.mk, ExceptT.bindCont, StateT.run,
    StateT.bind]
  rcases x d with ⟨_ | _, _⟩ <;> rfl

/-- A sequence that succeeded: both steps succeeded, the second on the disk the first left. -/
theorem run_bind_ok {x : Action ε α} {f : α → Action ε β} {d d'' : Disk} {b : β}
    (h : (x >>= f).run d = (.ok b, d'')) :
    ∃ a d', x.run d = (.ok a, d') ∧ (f a).run d' = (.ok b, d'') := by
  rw [run_bind] at h
  rcases hx : x.run d with ⟨_ | a, d'⟩
  · simp [hx] at h
  · rw [hx] at h
    exact ⟨a, d', rfl, h⟩

/-- A sequence that failed: the first step failed, or it succeeded and the second failed. -/
theorem run_bind_error {x : Action ε α} {f : α → Action ε β} {d d'' : Disk} {e : ε}
    (h : (x >>= f).run d = (.error e, d'')) :
    x.run d = (.error e, d'') ∨ ∃ a d', x.run d = (.ok a, d') ∧ (f a).run d' = (.error e, d'') := by
  rw [run_bind] at h
  rcases hx : x.run d with ⟨e' | a, d'⟩
  · rw [hx] at h
    simp only [Prod.mk.injEq, Except.error.injEq] at h
    obtain ⟨rfl, rfl⟩ := h
    exact Or.inl rfl
  · rw [hx] at h
    exact Or.inr ⟨a, d', rfl, h⟩

theorem run_attempt (f : Disk → Except IoError Disk) (wrap : IoError → ε) (d : Disk) :
    (attempt f wrap).run d =
      match f d with
      | .ok d' => (.ok (), d')
      | .error e => (.error (wrap e), d) := by
  simp only [attempt, run_bind, run_get]
  rcases f d with e | d' <;> rfl

theorem run_attemptPartly (f : Disk → Disk × Option IoError) (wrap : IoError → ε) (d : Disk) :
    (attemptPartly f wrap).run d =
      ((match (f d).2 with
        | some e => .error (wrap e)
        | none => .ok ()), (f d).1) := by
  simp only [attemptPartly, run_bind, run_get]
  rcases f d with ⟨d', _ | e⟩ <;> rfl

theorem run_mapError {ε' : Type} (f : ε → ε') (a : Action ε α) (d : Disk) :
    (mapError f a).run d =
      ((match (a.run d).1 with
        | .ok v => .ok v
        | .error e => .error (f e)), (a.run d).2) := by
  simp only [mapError, run, ExceptT.run, ExceptT.mk, StateT.run, bind, StateT.bind]
  rcases a d with ⟨_ | _, _⟩ <;> rfl

end FirmwareStamp.Action

namespace FirmwareStamp.Version

open Disk FirmwareStamp.Action

variable {d d' : Disk}

/-- Making the directories above a file makes directories on the way of the file only. -/
theorem makeParents_within {ε : Type} {path : String} {wrap : String → IoError → ε}
    {res : Except ε Unit} (hclear : d.NoLinks (d.wayOf path))
    (h : (makeParents path wrap).run d = (res, d')) : Within [] (d.wayOf path) d d' := by
  unfold makeParents at h
  split at h
  · rename_i par hpar
    split at h
    · simp only [run_pure, Prod.mk.injEq] at h
      rw [← h.2]
      exact Within.refl _ _ _
    · rw [run_attemptPartly, Prod.mk.injEq] at h
      rw [← h.2]
      exact (createDirAll_within fun q hq => hclear q (wayOf_parent d hpar q hq)).mono
        (List.Subset.refl _) (wayOf_parent d hpar)
  · simp only [run_pure, Prod.mk.injEq] at h
    rw [← h.2]
    exact Within.refl _ _ _

/-- Writing a file, its directories first, changes the place of the file and makes
directories on its way, whether it succeeds or not. -/
theorem writeFile_within {path text : String} {res : Except VersionError Unit}
    (hclear : d.NoLinks (d.wayOf path)) (h : (writeFile path text).run d = (res, d')) :
    Within [d.placeOf path] (d.wayOf path) d d' := by
  unfold writeFile at h
  rw [run_bind] at h
  rcases hm : (makeParents path VersionError.io).run d with ⟨e | u, d1⟩
  · rw [hm, Prod.mk.injEq] at h
    rw [← h.2]
    exact (makeParents_within hclear hm).mono (List.nil_subset _) (List.Subset.refl _)
  · rw [hm] at h
    dsimp only at h
    have hparents := makeParents_within hclear hm
    have hplace : d1.placeOf path = d.placeOf path := placeOf_of_cwd hparents.cwd path
    have hway : d1.wayOf path = d.wayOf path := wayOf_of_cwd hparents.cwd path
    rw [run_attempt] at h
    split at h
    · rename_i d2 hw
      rw [Prod.mk.injEq] at h
      rw [← h.2]
      have hwrite := (writeText_within (hway ▸ hparents.noLinks hclear) hw).1
      rw [hplace] at hwrite
      exact (hparents.trans hwrite).mono (by simp) (by simp)
    · rw [Prod.mk.injEq] at h
      rw [← h.2]
      exact hparents.mono (List.nil_subset _) (List.Subset.refl _)

/-- A file written with its directories reads back. -/
theorem writeFile_readText {path text : String} (h : (writeFile path text).run d = (.ok (), d')) :
    d'.readText path = .ok text := by
  unfold writeFile at h
  obtain ⟨u, d1, -, hw⟩ := run_bind_ok h
  rw [run_attempt] at hw
  split at hw
  · rename_i d2 hwrite
    simp only [Prod.mk.injEq] at hw
    rw [← hw.2]
    exact writeText_readText hwrite
  · simp at hw

/-- Without links on the way, a file written with its directories holds the text at the
place of its path. -/
theorem writeFile_node {path text : String} (hclear : d.NoLinks (d.wayOf path))
    (h : (writeFile path text).run d = (.ok (), d')) :
    d'.node? (d.placeOf path) = some (.file text.toByteArray.toList) := by
  unfold writeFile at h
  obtain ⟨u, d1, hm, hw⟩ := run_bind_ok h
  have hparents := makeParents_within hclear hm
  rw [run_attempt] at hw
  split at hw
  · rename_i d2 hwrite
    simp only [Prod.mk.injEq] at hw
    rw [← hw.2, ← placeOf_of_cwd hparents.cwd path]
    have hway : d1.wayOf path = d.wayOf path := wayOf_of_cwd hparents.cwd path
    exact (writeText_within (hway ▸ hparents.noLinks hclear) hwrite).2
  · simp at hw

/-- A write fails with a disk error only. -/
theorem writeFile_error {path text : String} {e : VersionError}
    (h : (writeFile path text).run d = (.error e, d')) : ∃ p c, e = .io p c := by
  unfold writeFile at h
  rcases run_bind_error h with hm | ⟨u, d1, -, hw⟩
  · unfold makeParents at hm
    split at hm
    · rename_i par _
      split at hm
      · simp at hm
      · rw [run_attemptPartly] at hm
        rcases hc : (d.createDirAll par).2 with _ | c <;> simp [hc] at hm
        exact ⟨par, c, hm.1.symm⟩
    · simp at hm
  · rw [run_attempt] at hw
    rcases hwt : d1.writeText path text with c | d2 <;> simp [hwt] at hw
    exact ⟨path, c, hw.1.symm⟩

theorem makeParents_top {ε : Type} {path : String} {wrap : String → IoError → ε}
    (h : Path.parent? path = some "") : (makeParents path wrap).run d = (.ok (), d) := by
  simp [makeParents, h]

theorem makeParents_made {ε : Type} {path par : String} {wrap : String → IoError → ε}
    (h : Path.parent? path = some par) (hne : par.isEmpty = false)
    (hc : d.createDirAll par = (d', none)) : (makeParents path wrap).run d = (.ok (), d') := by
  simp [makeParents, h, hne, run_attemptPartly, hc]

theorem writeFile_of {path text : String} {d1 : Disk}
    (hm : (makeParents path VersionError.io).run d = (.ok (), d1))
    (hw : d1.writeText path text = .ok d') : (writeFile path text).run d = (.ok (), d') := by
  simp [writeFile, run_bind, hm, run_attempt, hw]

theorem load_ok {s : Store} {r : Record} (h : s.load.run d = (.ok r, d')) :
    (d.present s.path = true ∧ d' = d ∧
      ∃ text, d.readText s.path = .ok text ∧ Record.parseJson text = .ok r) ∨
    (d.present s.path = false ∧ r = Record.initial s.defaultName ∧
      (s.save r).run d = (.ok (), d')) := by
  unfold Store.load at h
  rw [run_bind, run_get] at h
  dsimp only at h
  cases hp : d.present s.path
  · simp only [hp, Bool.not_false, ↓reduceIte] at h
    obtain ⟨u, d1, hsave, hpure⟩ := run_bind_ok h
    simp only [run_pure, Prod.mk.injEq, Except.ok.injEq] at hpure
    obtain ⟨rfl, rfl⟩ := hpure
    exact Or.inr ⟨rfl, rfl, hsave⟩
  · simp only [hp, Bool.not_true, Bool.false_eq_true, ↓reduceIte] at h
    refine Or.inl ⟨rfl, ?_⟩
    split at h
    · simp at h
    · rename_i text htext
      split at h
      · rename_i r' hr
        simp only [run_pure, Prod.mk.injEq, Except.ok.injEq] at h
        obtain ⟨rfl, rfl⟩ := h
        exact ⟨rfl, text, htext, hr⟩
      · simp at h

theorem load_absent {s : Store} (hp : d.present s.path = false)
    (hs : (s.save (Record.initial s.defaultName)).run d = (.ok (), d')) :
    s.load.run d = (.ok (Record.initial s.defaultName), d') := by
  unfold Store.load
  simp only [run_bind, run_get, hp, Bool.not_false, ↓reduceIte, hs, run_pure]

theorem load_error {s : Store} {e : VersionError} (h : s.load.run d = (.error e, d')) :
    (d.present s.path = true ∧ d' = d ∧ ∃ m, e = .corrupt s.path m) ∨
    (d.present s.path = false ∧
      (s.save (Record.initial s.defaultName)).run d = (.error e, d')) := by
  unfold Store.load at h
  rw [run_bind, run_get] at h
  dsimp only at h
  cases hp : d.present s.path
  · simp only [hp, Bool.not_false, ↓reduceIte] at h
    rcases run_bind_error h with hsave | ⟨u, d1, -, hpure⟩
    · exact Or.inr ⟨rfl, hsave⟩
    · simp at hpure
  · simp only [hp, Bool.not_true, Bool.false_eq_true, ↓reduceIte] at h
    refine Or.inl ⟨rfl, ?_⟩
    split at h
    · simp only [run_throw, Prod.mk.injEq] at h
      exact ⟨h.2.symm, _, (Except.error.inj h.1).symm⟩
    · split at h
      · simp at h
      · simp only [run_throw, Prod.mk.injEq] at h
        exact ⟨h.2.symm, _, (Except.error.inj h.1).symm⟩

/-- Loading a version file that holds a record gives the record and writes nothing. -/
theorem load_present {s : Store} {text : String} {r : Record} (hp : d.present s.path = true)
    (ht : d.readText s.path = .ok text) (hr : Record.parseJson text = .ok r) :
    s.load.run d = (.ok r, d) := by
  unfold Store.load
  simp only [run_bind, run_get, hp, Bool.not_true, Bool.false_eq_true, ↓reduceIte, ht, hr, run_pure]

/-- Loading a version file that is there reads it and writes nothing. -/
theorem load_run_present {s : Store} (hp : d.present s.path = true) :
    s.load.run d = ((match d.readText s.path with
      | .error e => .error (.corrupt s.path e.message)
      | .ok text =>
        match Record.parseJson text with
        | .ok r => .ok r
        | .error m => .error (.corrupt s.path m)), d) := by
  unfold Store.load
  simp only [run_bind, run_get, hp, Bool.not_true, Bool.false_eq_true, ↓reduceIte]
  rcases d.readText s.path with e | text
  · rfl
  · dsimp only
    rcases Record.parseJson text with m | r <;> rfl

theorem bootstrap_ok {path : String} {r : Record} {b : Bool}
    (h : (bootstrap path r).run d = (.ok b, d')) :
    (d.isFile path = true ∧ b = false ∧ d' = d) ∨
    (d.isFile path = false ∧ b = true ∧ (project path r).run d = (.ok (), d')) := by
  unfold bootstrap at h
  rw [run_bind, run_get] at h
  dsimp only at h
  cases hf : d.isFile path
  · simp only [hf, Bool.false_eq_true, if_false] at h
    obtain ⟨u, d1, hproject, hpure⟩ := run_bind_ok h
    simp only [run_pure, Prod.mk.injEq, Except.ok.injEq] at hpure
    obtain ⟨rfl, rfl⟩ := hpure
    exact Or.inr ⟨rfl, rfl, hproject⟩
  · simp only [hf, if_true, run_pure, Prod.mk.injEq, Except.ok.injEq] at h
    exact Or.inl ⟨rfl, h.1.symm, h.2.symm⟩

theorem bootstrap_error {path : String} {r : Record} {e : VersionError}
    (h : (bootstrap path r).run d = (.error e, d')) :
    d.isFile path = false ∧ (project path r).run d = (.error e, d') := by
  unfold bootstrap at h
  rw [run_bind, run_get] at h
  dsimp only at h
  cases hf : d.isFile path
  · simp only [hf, Bool.false_eq_true, if_false] at h
    rcases run_bind_error h with hproject | ⟨u, d1, -, hpure⟩
    · exact ⟨rfl, hproject⟩
    · simp at hpure
  · simp [hf] at h

theorem bootstrap_present {path : String} {r : Record} (hf : d.isFile path = true) :
    (bootstrap path r).run d = (.ok false, d) := by
  unfold bootstrap
  simp only [run_bind, run_get, hf, ↓reduceIte, run_pure]

theorem bootstrap_absent {path : String} {r : Record} (hf : d.isFile path = false)
    (hp : (project path r).run d = (.ok (), d')) : (bootstrap path r).run d = (.ok true, d') := by
  unfold bootstrap
  simp only [run_bind, run_get, hf, Bool.false_eq_true, ↓reduceIte, hp, run_pure]

theorem forceRecompile_ok {path : String} {b : Bool}
    (h : (forceRecompile path).run d = (.ok b, d')) :
    (b = true ∧ d.removeFile path = .ok d') ∨
    (b = false ∧ d.removeFile path = .error .notFound ∧ d' = d) := by
  unfold forceRecompile at h
  rw [run_bind, run_get] at h
  dsimp only at h
  split at h
  · rename_i d1 hrm
    obtain ⟨u, d2, hset, hpure⟩ := run_bind_ok h
    simp only [run_set, Prod.mk.injEq] at hset
    obtain ⟨-, rfl⟩ := hset
    simp only [run_pure, Prod.mk.injEq, Except.ok.injEq] at hpure
    obtain ⟨rfl, rfl⟩ := hpure
    exact Or.inl ⟨rfl, hrm⟩
  · rename_i hrm
    simp only [run_pure, Prod.mk.injEq, Except.ok.injEq] at h
    exact Or.inr ⟨h.1.symm, hrm, h.2.symm⟩
  · simp at h

theorem forceRecompile_error {path : String} {e : VersionError}
    (h : (forceRecompile path).run d = (.error e, d')) : d' = d ∧ ∃ c, e = .io path c := by
  unfold forceRecompile at h
  rw [run_bind, run_get] at h
  dsimp only at h
  split at h
  · obtain hset | ⟨u, d2, -, hpure⟩ := run_bind_error h
    · simp at hset
    · simp at hpure
  · simp at h
  · rename_i c _ _
    simp only [run_throw, Prod.mk.injEq, Except.error.injEq] at h
    exact ⟨h.2.symm, c, h.1.symm⟩

theorem persist_ok {c : Reconciler} {result : Reconciliation}
    (h : (c.persist result).run d = (.ok (), d')) :
    (result.changed = true → ∃ d1, (c.store.save result.record).run d = (.ok (), d1) ∧
      (project c.header result.record).run d1 = (.ok (), d')) ∧
    (result.changed = false → d' = d) := by
  unfold Reconciler.persist at h
  cases hch : result.changed
  · simp only [hch, Bool.false_eq_true, ↓reduceIte, run_pure, Prod.mk.injEq] at h
    exact ⟨nofun, fun _ => h.2.symm⟩
  · simp only [hch, ↓reduceIte] at h
    obtain ⟨u, d1, hsave, hproject⟩ := run_bind_ok h
    exact ⟨fun _ => ⟨d1, hsave, hproject⟩, nofun⟩

theorem recompileIfStale_ok {c : Reconciler} {m : Lookup} {r : Record} {b : Bool}
    (h : (c.recompileIfStale m r).run d = (.ok b, d')) :
    (m.agrees r = some false → (forceRecompile c.mainObject).run d = (.ok b, d')) ∧
    (m.agrees r ≠ some false → b = false ∧ d' = d) := by
  unfold Reconciler.recompileIfStale at h
  split at h
  · rename_i hm
    exact ⟨fun _ => h, fun hne => absurd hm hne⟩
  · rename_i hm
    simp only [run_pure, Prod.mk.injEq, Except.ok.injEq] at h
    exact ⟨fun hf => absurd hf hm, fun _ => ⟨h.1.symm, h.2.symm⟩⟩

theorem persist_changed {c : Reconciler} {result : Reconciliation} {d1 : Disk}
    (hch : result.changed = true) (hsave : (c.store.save result.record).run d = (.ok (), d1))
    (hproject : (project c.header result.record).run d1 = (.ok (), d')) :
    (c.persist result).run d = (.ok (), d') := by
  simp only [Reconciler.persist, hch, ↓reduceIte, run_bind, hsave, hproject]

theorem recompileIfStale_fresh {c : Reconciler} {m : Lookup} {r : Record}
    (hm : m.agrees r ≠ some false) : (c.recompileIfStale m r).run d = (.ok false, d) := by
  unfold Reconciler.recompileIfStale
  split
  · contradiction
  · rfl

/-- A version step whose every step succeeded succeeds with what they gave. -/
theorem run_of_steps {c : Reconciler} {target : Target} {r0 : Record} {b forced : Bool}
    {res : Reconciliation} {d1 d2 d3 : Disk} (hload : c.store.load.run d = (.ok r0, d1))
    (hboot : (bootstrap c.header r0).run d1 = (.ok b, d2))
    (hrec : reconcile r0 target (readManifest d2 c.manifest) = .ok res)
    (hpersist : (c.persist res).run d2 = (.ok (), d3))
    (hstale : (c.recompileIfStale (readManifest d2 c.manifest) res.record).run d3 =
      (.ok forced, d')) :
    (c.run target).run d = (.ok ⟨res, b, res.changed, forced⟩, d') := by
  unfold Reconciler.run
  simp only [run_bind, hload, hboot, run_get, hrec, run_pure, hpersist, hstale]

/-- A version step that succeeded: the record was loaded, the header bootstrapped, the
record reconciled with the manifest read then, persisted when it changed, and the main
object removed when the manifest disagrees. -/
theorem run_ok {c : Reconciler} {target : Target} {o : Outcome}
    (h : (c.run target).run d = (.ok o, d')) :
    ∃ r0 d1 d2 d3,
      c.store.load.run d = (.ok r0, d1) ∧
      (bootstrap c.header r0).run d1 = (.ok o.headerBootstrapped, d2) ∧
      reconcile r0 target (readManifest d2 c.manifest) = .ok o.reconciliation ∧
      o.persisted = o.reconciliation.changed ∧
      (c.persist o.reconciliation).run d2 = (.ok (), d3) ∧
      (c.recompileIfStale (readManifest d2 c.manifest) o.reconciliation.record).run d3 =
        (.ok o.recompileForced, d') := by
  unfold Reconciler.run at h
  obtain ⟨r0, d1, hload, h⟩ := run_bind_ok h
  obtain ⟨booted, d2, hboot, h⟩ := run_bind_ok h
  obtain ⟨d2', d2'', hget, h⟩ := run_bind_ok h
  simp only [run_get, Prod.mk.injEq, Except.ok.injEq] at hget
  obtain ⟨rfl, rfl⟩ := hget
  dsimp only at h
  split at h
  case h_2 =>
    obtain ⟨_, _, hthrow, _⟩ := run_bind_ok h
    simp at hthrow
  rename_i result hres
  obtain ⟨result', d2', hpure, h⟩ := run_bind_ok h
  simp only [run_pure, Prod.mk.injEq, Except.ok.injEq] at hpure
  obtain ⟨rfl, rfl⟩ := hpure
  obtain ⟨u, d3, hpersist, h⟩ := run_bind_ok h
  obtain ⟨forced, d4, hforce, h⟩ := run_bind_ok h
  simp only [run_pure, Prod.mk.injEq, Except.ok.injEq] at h
  obtain ⟨rfl, rfl⟩ := h
  exact ⟨r0, d1, d2, d3, hload, hboot, hres, rfl, hpersist, hforce⟩

theorem persist_error {c : Reconciler} {result : Reconciliation} {e : VersionError}
    (h : (c.persist result).run d = (.error e, d')) : ∃ p cause, e = .io p cause := by
  unfold Reconciler.persist at h
  split at h
  · rcases run_bind_error h with hsave | ⟨u, d1, -, hproject⟩
    · exact writeFile_error hsave
    · exact writeFile_error hproject
  · simp at h

theorem recompileIfStale_error {c : Reconciler} {m : Lookup} {r : Record} {e : VersionError}
    (h : (c.recompileIfStale m r).run d = (.error e, d')) : ∃ p cause, e = .io p cause := by
  unfold Reconciler.recompileIfStale at h
  split at h
  · exact ⟨_, (forceRecompile_error h).2⟩
  · simp at h

/-- A version step that failed: loading failed, or bootstrapping the header failed, or the
build counter is at its maximum, or a write or the removal failed. -/
theorem run_error {c : Reconciler} {target : Target} {e : VersionError}
    (h : (c.run target).run d = (.error e, d')) :
    c.store.load.run d = (.error e, d') ∨
    ∃ r0 d1, c.store.load.run d = (.ok r0, d1) ∧
      ((bootstrap c.header r0).run d1 = (.error e, d') ∨
       (∃ b x, (bootstrap c.header r0).run d1 = (.ok b, d') ∧
         reconcile r0 target (readManifest d' c.manifest) = .error x ∧ e = .exhausted x) ∨
       ∃ p cause, e = .io p cause) := by
  unfold Reconciler.run at h
  rcases run_bind_error h with hload | ⟨r0, d1, hload, h⟩
  · exact Or.inl hload
  refine Or.inr ⟨r0, d1, hload, ?_⟩
  rcases run_bind_error h with hboot | ⟨booted, d2, hboot, h⟩
  · exact Or.inl hboot
  refine Or.inr ?_
  rcases run_bind_error h with hget | ⟨d2', d2'', hget, h⟩
  · simp at hget
  simp only [run_get, Prod.mk.injEq, Except.ok.injEq] at hget
  obtain ⟨rfl, rfl⟩ := hget
  dsimp only at h
  split at h
  · rcases run_bind_error h with hpure | ⟨result, d3, hpure, h⟩
    · simp at hpure
    simp only [run_pure, Prod.mk.injEq, Except.ok.injEq] at hpure
    obtain ⟨rfl, rfl⟩ := hpure
    rcases run_bind_error h with hpersist | ⟨u, d3, -, h⟩
    · exact Or.inr (persist_error hpersist)
    rcases run_bind_error h with hforce | ⟨forced, d4, -, h⟩
    · exact Or.inr (recompileIfStale_error hforce)
    simp at h
  · rename_i x hx
    rcases run_bind_error h with hthrow | ⟨_, _, hthrow, _⟩
    · simp only [run_throw, Prod.mk.injEq, Except.error.injEq] at hthrow
      obtain ⟨rfl, rfl⟩ := hthrow
      exact Or.inl ⟨booted, x, hboot, hx, rfl⟩
    · simp at hthrow

end FirmwareStamp.Version
