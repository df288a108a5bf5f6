import FirmwareStamp.Version.Reconcile

/-!
Reconciling a record in closed form. The triple comes from the manifest when it has a
well-formed one, the counter goes up by one for a release target, and only a release
target with a full counter fails. A reconciliation reports a change exactly when the
record it gives differs from the one it was given.
-/

namespace FirmwareStamp.Version

variable {r : Record} {t : Target} {m : Lookup} {res : Reconciliation}

/-- The triple a reconciliation gives the record: the manifest's when it has one. -/
def Lookup.tripleOr (m : Lookup) (r : Record) : Triple := m.triple?.getD r.triple

/-- Reconciling in closed form: a release build with the counter at its maximum fails;
otherwise the record takes the manifest's triple, and a release build counts one more. -/
theorem reconcile_eq (r : Record) (t : Target) (m : Lookup) :
    reconcile r t m =
      if t.isDebug = false ∧ r.build = maxWord then .error ⟨r.name, r.build⟩
      else .ok ⟨⟨r.name, (m.tripleOr r).major, (m.tripleOr r).minor, (m.tripleOr r).patch,
          if t.isDebug then r.build else r.build + 1⟩,
        decide (m.tripleOr r ≠ r.triple), !t.isDebug, t.isDebug⟩ := by
  obtain ⟨name, major, minor, patch, build⟩ := r
  unfold reconcile
  cases m with
  | version tr =>
    by_cases htr : tr = ⟨major, minor, patch⟩
    · subst htr
      cases hd : t.isDebug <;> by_cases hb : build = maxWord <;>
        simp [Lookup.tripleOr, Lookup.triple?, Record.triple, hb]
    · cases hd : t.isDebug <;> by_cases hb : build = maxWord <;>
        simp [Lookup.tripleOr, Lookup.triple?, Record.triple, Record.withTriple, hb, htr]
  | absent | malformed =>
    cases hd : t.isDebug <;> by_cases hb : build = maxWord <;>
      simp [Lookup.tripleOr, Lookup.triple?, Record.triple, hb]

theorem reconcile_ok (h : reconcile r t m = .ok res) :
    res.record = ⟨r.name, (m.tripleOr r).major, (m.tripleOr r).minor, (m.tripleOr r).patch,
      if t.isDebug then r.build else r.build + 1⟩ ∧
    res.changed = (decide (m.tripleOr r ≠ r.triple) || !t.isDebug) ∧
    (t.isDebug = false → r.build ≠ maxWord) := by
  rw [reconcile_eq] at h
  split at h
  · simp at h
  · rename_i hmax
    simp only [Except.ok.injEq] at h
    subst h
    exact ⟨rfl, rfl, fun hd hb => hmax ⟨hd, hb⟩⟩

theorem reconcile_error {x : CounterExhausted} (h : reconcile r t m = .error x) :
    t.isDebug = false ∧ r.build = maxWord ∧ x = ⟨r.name, r.build⟩ := by
  rw [reconcile_eq] at h
  split at h
  · rename_i hmax
    simp only [Except.error.injEq] at h
    exact ⟨hmax.1, hmax.2, h.symm⟩
  · simp at h

/-- A reconciliation changed the record exactly when the record it gives differs. -/
theorem changed_iff_ne (h : reconcile r t m = .ok res) :
    res.changed = true ↔ res.record ≠ r := by
  obtain ⟨hrec, hch, -⟩ := reconcile_ok h
  rw [hch, hrec]
  generalize m.tripleOr r = tr
  obtain ⟨name, major, minor, patch, build⟩ := r
  obtain ⟨a, b, c⟩ := tr
  cases hd : t.isDebug <;> simp [Record.triple, Decidable.or_iff_not_imp_left]

/-- A reconciliation that reports no change gives back the record it was given. -/
theorem record_of_unchanged (h : reconcile r t m = .ok res) (hf : res.changed = false) :
    res.record = r :=
  Decidable.byContradiction fun hne => by simp [(changed_iff_ne h).2 hne] at hf

theorem toNat_succ_of_ne_max {w : UInt32} (h : w ≠ maxWord) : (w + 1).toNat = w.toNat + 1 := by
  have hlt := w.toNat_lt
  have hne : w.toNat ≠ 4294967295 := fun e => h (UInt32.toNat_inj.1 (by rw [e]; rfl))
  rw [UInt32.toNat_add, UInt32.toNat_one, Nat.mod_eq_of_lt (by simp at hlt ⊢; omega)]

/-- A reconciliation syncs exactly when the manifest has a well-formed triple other than the
record's. -/
theorem tripleOr_ne_iff (m : Lookup) (r : Record) :
    m.tripleOr r ≠ r.triple ↔ ∃ t', m = .version t' ∧ t' ≠ r.triple := by
  cases m <;> simp [Lookup.tripleOr, Lookup.triple?]

/-- Counting is reported over syncing, and syncing over a debug no-op; a reconciliation that
counts is a release one and one that does not is a debug one, so none is stable. -/
theorem state_of_flags (rec : Record) (synced debug : Bool) :
    Reconciliation.state ⟨rec, synced, !debug, debug⟩ =
      if debug then (if synced then .manifestSync else .debugNoOp) else .buildIncrement := by
  cases debug <;> cases synced <;> rfl

/-- Reconciling fails exactly for a release target whose counter is full, naming the record
and the full counter. Otherwise the name stays, the triple is the manifest's well-formed one
or the record's, a release target counts one more build without wrapping, the record is
reported synced exactly when a differing manifest triple was taken, counted exactly for a
release target and changed exactly when it differs, and the state says which. -/
theorem reconcile_outcome (r : Record) (t : Target) (m : Lookup) :
    (reconcile r t m = .error ⟨r.name, maxWord⟩ ↔ t.isDebug = false ∧ r.build = maxWord) ∧
    (¬(t.isDebug = false ∧ r.build = maxWord) →
      ∃ res, reconcile r t m = .ok res ∧
        res.record.name = r.name ∧
        res.record.triple = m.tripleOr r ∧
        res.record.build.toNat = r.build.toNat + (if t.isDebug then 0 else 1) ∧
        (res.synced = true ↔ ∃ t', m = .version t' ∧ t' ≠ r.triple) ∧
        (res.incremented = true ↔ t.isDebug = false) ∧
        (res.changed = true ↔ res.record ≠ r) ∧
        res.state = (if t.isDebug then (if res.synced then .manifestSync else .debugNoOp)
          else .buildIncrement) ∧
        res.state ≠ .stable) := by
  refine ⟨⟨fun h => ?_, fun ⟨hd, hb⟩ => ?_⟩, fun hroom => ?_⟩
  · obtain ⟨hd, hb, -⟩ := reconcile_error h
    exact ⟨hd, hb⟩
  · rw [reconcile_eq, if_pos ⟨hd, hb⟩, hb]
  · rw [reconcile_eq, if_neg hroom]
    refine ⟨_, rfl, rfl, rfl, ?_, by simpa using tripleOr_ne_iff m r, by simp,
      changed_iff_ne (by rw [reconcile_eq, if_neg hroom]), state_of_flags _ _ _, ?_⟩
    · cases hd : t.isDebug
      · simp [toNat_succ_of_ne_max fun hb => hroom ⟨hd, hb⟩]
      · simp
    · rw [state_of_flags]
      split
      · split <;> simp
      · simp

end FirmwareStamp.Version
