import FirmwareStamp.Proofs.Cli.JoinPlan

/-!
Filling options from a configuration table, in closed form. The filling reads its keys in one
fixed order: the top-level options, `color`, then the command's table and the keys in it. A
key is at fault when its value is of a kind the option cannot take and the option is read at
all: a text option the command line left unset, the masks when none were given, the sort flag
when sorting was not asked for; `color` and a command's table are read whatever is set.
Filling fails with the first fault, naming its key and the kind expected (`Args.checks`);
otherwise every option the command line set stays, every one it left out takes the table's
value, and the colour flags follow the table's `color` unless one of them was given
(`Args.overlay`).
-/

namespace FirmwareStamp.Cli

open Join

/-! ### Faults and their order -/

/-- A key, and the kind expected there when its value cannot be used. -/
abbrev Check := String × Option String

/-- The first key at fault, with the kind expected there. -/
def firstFault (checks : List Check) : Option (String × String) :=
  checks.findSome? fun c => c.2.map (c.1, ·)

/-- What reading the keys of `checks` gives: the error of the first fault, else `x`. -/
def settle {α : Type} (checks : List Check) (x : α) : Except ConfigError α :=
  (firstFault checks).elim (.ok x) fun f => .error (.invalidValue f.1 f.2)

/-- A text option is at fault when the command line left it unset and the table holds
something other than a string at its key. -/
def textCheck (expected : String) (t : Table) (key : String) (current : Option String) :
    Check :=
  (key, if current.isNone && (Toml.lookup t key).any (·.asStr?.isNone) then some expected
    else none)

/-- A flag is at fault when the table holds something other than a boolean at its key. -/
def flagCheck (t : Table) (key : String) : Check :=
  (key, if (Toml.lookup t key).any (·.asBool?.isNone) then some "a boolean" else none)

/-- A command's table is at fault when the table holds something other than a table at its
key. -/
def tableCheck (t : Table) (key : String) : Check :=
  (key, if (Toml.lookup t key).any (·.asTable?.isNone) then some "a table" else none)

/-- What a masks value that is neither a string nor an array of strings lacks. -/
def textsFault (v : Toml.Value) : Option String :=
  if v.asStr?.isSome then none
  else v.asArray?.elim (some "a string or an array of strings") fun items =>
    if items.all (·.asStr?.isSome) then none else some "an array of strings"

/-- The table under a key, empty when there is none. -/
def tableOf (t : Table) (key : String) : Table :=
  ((Toml.lookup t key).bind Toml.Value.asTable?).getD []

/-- The keys of the hooks table, in the order they are read. -/
def HookOptions.checks (h : HookOptions) (s : Table) : List Check :=
  [textCheck "a string" s "env" h.env, textCheck "a string" s "name" h.name,
    textCheck "a path string" s "version-file" h.versionFile,
    textCheck "a path string" s "header" h.header,
    textCheck "a path string" s "package-manifest" h.packageManifest,
    textCheck "a path string" s "build-dir" h.buildDir,
    textCheck "a path string" s "firmware" h.firmware,
    textCheck "a path string" s "main-object" h.mainObject,
    textCheck "a path string" s "output-dir" h.outputDir]

/-- The texts a masks value gives: one string, or the strings of an array. -/
def textsOf (v : Toml.Value) : List String :=
  (v.asStr?.map fun s => [s]).getD ((v.asArray?.map (·.filterMap Toml.Value.asStr?)).getD [])

end FirmwareStamp.Cli

namespace FirmwareStamp.Join

open Cli

/-- The keys of the join table, in the order they are read: the masks only when none were
given, the sort flag only when sorting was not asked for. -/
def Request.checks (j : Request) (s : Table) : List Check :=
  [textCheck "a path string" s "ctrl" j.control, textCheck "a path string" s "src" j.source,
    textCheck "a path string" s "target" j.target,
    ("masks", if j.masks.isEmpty then (Toml.lookup s "masks").bind textsFault else none),
    ("sort", if j.sort then none else (flagCheck s "sort").2)]

/-- The join options with the ones left out taken from the join table. -/
def Request.overlay (j : Request) (s : Table) : Request where
  control := j.control.or (textAt s "ctrl")
  source := j.source.or (textAt s "src")
  target := j.target.or (textAt s "target")
  masks := if j.masks.isEmpty then ((Toml.lookup s "masks").map textsOf).getD [] else j.masks
  sort := j.sort || flagOf s "sort"

end FirmwareStamp.Join

namespace FirmwareStamp.Cli

open Join

/-- The keys a command reads: its table, then the keys in it. -/
def Command.checks : Command → Table → List Check
  | .preBuild h, t | .postBuild h, t | .show h, t =>
    tableCheck t "hooks" :: h.checks (tableOf t "hooks")
  | .join j, t => tableCheck t "join" :: j.checks (tableOf t "join")

/-- Every key the filling reads, in order. -/
def Args.checks (a : Args) (t : Table) : List Check :=
  [textCheck "a string" t "log-level" a.logLevel, textCheck "a string" t "log-format" a.logFormat,
    textCheck "a path string" t "log-file" a.logFile,
    textCheck "a path string" t "project-dir" a.projectDir, flagCheck t "color"] ++
  (a.command.map (·.checks t)).getD []

/-! ### What the filling leaves -/

/-- The hook options with the ones left out taken from the hooks table. -/
def HookOptions.overlay (h : HookOptions) (s : Table) : HookOptions where
  env := h.env.or (textAt s "env")
  name := h.name.or (textAt s "name")
  versionFile := h.versionFile.or (textAt s "version-file")
  header := h.header.or (textAt s "header")
  packageManifest := h.packageManifest.or (textAt s "package-manifest")
  buildDir := h.buildDir.or (textAt s "build-dir")
  firmware := h.firmware.or (textAt s "firmware")
  mainObject := h.mainObject.or (textAt s "main-object")
  outputDir := h.outputDir.or (textAt s "output-dir")

/-- A command with its options filled from its table. -/
def Command.overlay : Command → Table → Command
  | .preBuild h, t => .preBuild (h.overlay (tableOf t "hooks"))
  | .postBuild h, t => .postBuild (h.overlay (tableOf t "hooks"))
  | .show h, t => .show (h.overlay (tableOf t "hooks"))
  | .join j, t => .join (j.overlay (tableOf t "join"))

/-- The command line with the options it left out taken from the table; the colour flags
take the table's `color` and its negation when neither was given. -/
def Args.overlay (a : Args) (t : Table) : Args :=
  let color := (Toml.lookup t "color").bind Toml.Value.asBool?
  { a with
    logLevel := a.logLevel.or (textAt t "log-level")
    logFormat := a.logFormat.or (textAt t "log-format")
    logFile := a.logFile.or (textAt t "log-file")
    projectDir := a.projectDir.or (textAt t "project-dir")
    color := if !a.color && !a.noColor then color.getD a.color else a.color
    noColor := if !a.color && !a.noColor then (color.map (!·)).getD a.noColor else a.noColor
    command := a.command.map (·.overlay t) }

/-! ### Reading keys one after another -/

theorem firstFault_append (l l' : List Check) :
    firstFault (l ++ l') = (firstFault l).or (firstFault l') := by
  simp [firstFault, List.findSome?_append]

@[simp] theorem firstFault_nil : firstFault [] = none := rfl

@[simp] theorem firstFault_cons (c : Check) (rest : List Check) :
    firstFault (c :: rest) = (c.2.map (c.1, ·)).or (firstFault rest) := by
  obtain ⟨key, fault⟩ := c
  cases fault <;> simp [firstFault]

/-- A key without fault does not change a reading. -/
@[simp] theorem settle_cons_none {α : Type} (key : String) (l : List Check) (x : α) :
    settle ((key, none) :: l) x = settle l x := by
  simp [settle]

/-- Two readings with the same first fault and the same outcome agree. -/
theorem settle_congr {α : Type} {l l' : List Check} {x x' : α}
    (hl : firstFault l = firstFault l') (hx : x = x') : settle l x = settle l' x' := by
  rw [settle, settle, hl, hx]

theorem pure_eq_settle {α : Type} (x : α) : (pure x : Except ConfigError α) = settle [] x := rfl

/-- Reading the keys of `l` and going on with the result `x` when none is at fault. -/
theorem settle_bind_eq {α β : Type} (l : List Check) (x : α) (f : α → Except ConfigError β) :
    settle l x >>= f = (firstFault l).elim (f x) fun p => .error (.invalidValue p.1 p.2) := by
  unfold settle
  cases firstFault l <;> rfl

/-- Keys read before others: the first fault is among them, if they have one. -/
theorem elim_settle {α : Type} (l l' : List Check) (x : α) :
    (firstFault l).elim (settle l' x) (fun p => .error (.invalidValue p.1 p.2)) =
      settle (l ++ l') x := by
  unfold settle
  rw [firstFault_append]
  cases firstFault l <;> rfl

/-- Reading the keys of `l`, then those of `l'`, is reading both lists in order. -/
theorem settle_bind {α β : Type} (l l' : List Check) (x : α) (g : α → β) :
    (settle l x >>= fun v => settle l' (g v)) = settle (l ++ l') (g x) := by
  rw [settle_bind_eq, elim_settle]

theorem map_settle {α β : Type} (f : α → β) (l : List Check) (x : α) :
    f <$> settle l x = settle l (f x) := by
  unfold settle
  cases firstFault l <;> rfl

/-! ### Reading one key -/

theorem fillWith_eq (e : String) (t : Table) (key : String) (cur : Option String) :
    fillWith e t key cur = settle [textCheck e t key cur] (cur.or (textAt t key)) := by
  unfold fillWith
  cases cur with
  | some v => simp [settle, firstFault, textCheck]
  | none =>
    cases hl : Toml.lookup t key with
    | none => simp [settle, firstFault, textCheck, textAt, hl]
    | some val => cases hv : val.asStr? <;> simp [settle, firstFault, textCheck, textAt, hl, hv]

theorem flagAt_eq (t : Table) (key : String) :
    flagAt t key = settle [flagCheck t key] ((Toml.lookup t key).bind Toml.Value.asBool?) := by
  unfold flagAt
  cases hl : Toml.lookup t key with
  | none => simp [settle, firstFault, flagCheck, hl]
  | some val => cases hv : val.asBool? <;> simp [settle, firstFault, flagCheck, hl, hv]

theorem tableAt_eq (t : Table) (key : String) :
    tableAt t key = settle [tableCheck t key] ((Toml.lookup t key).bind Toml.Value.asTable?) := by
  unfold tableAt
  cases hl : Toml.lookup t key with
  | none => simp [settle, firstFault, tableCheck, hl]
  | some val => cases hv : val.asTable? <;> simp [settle, firstFault, tableCheck, hl, hv]

/-- Reading the items of an array as texts fails exactly when one of them is no string. -/
theorem mapM_texts {F : Toml.Value → Except ConfigError String} {e : ConfigError}
    (hF : ∀ v, F v = v.asStr?.elim (.error e) .ok) (items : List Toml.Value) :
    items.mapM F = if items.all (·.asStr?.isSome) then .ok (items.filterMap Toml.Value.asStr?)
      else .error e := by
  induction items with
  | nil => rfl
  | cons item items ih =>
    rw [List.mapM_cons, hF, ih]
    cases hs : item.asStr? <;> cases hall : items.all (·.asStr?.isSome) <;>
      simp [hs, hall, bind, Except.bind, pure, Except.pure]

theorem textsAt_eq (t : Table) (key : String) :
    textsAt t key = settle [(key, (Toml.lookup t key).bind textsFault)]
      (((Toml.lookup t key).map textsOf).getD []) := by
  unfold textsAt
  cases hl : Toml.lookup t key with
  | none => rfl
  | some val =>
    simp only [Option.bind_some, Option.map_some, Option.getD_some]
    cases hs : val.asStr? with
    | some text => simp [settle, firstFault, textsFault, textsOf, hs]
    | none =>
      cases ha : val.asArray? with
      | none => simp [settle, firstFault, textsFault, hs, ha]
      | some items =>
        dsimp only
        rw [mapM_texts (fun v => by cases v.asStr? <;> rfl) items]
        cases hall : items.all (·.asStr?.isSome) <;>
          simp only [textsFault, textsOf, hs, ha, hall, Option.isSome_none, Bool.false_eq_true,
            if_false, if_true, Option.elim, Option.map_some, Option.map_none, Option.getD_some,
            Option.getD_none] <;>
          simp [settle, firstFault]

/-! ### Filling in closed form -/

theorem fill_eq (h : HookOptions) (s : Table) : h.fill s = settle (h.checks s) (h.overlay s) := by
  simp only [HookOptions.fill, fillText, fillPath, fillWith_eq, pure_eq_settle, settle_bind,
    List.singleton_append, List.append_nil]
  rfl

theorem fillJoin_eq (j : Request) (s : Table) :
    fillJoin j s = settle (j.checks s) (j.overlay s) := by
  unfold fillJoin
  cases hm : j.masks.isEmpty <;> cases hs : j.sort <;>
    simp only [fillPath, fillWith_eq, textsAt_eq, flagAt_eq, map_settle, pure_eq_settle,
      settle_bind, List.singleton_append, List.append_nil, if_true, if_false, Bool.false_eq_true]
  all_goals
    refine settle_congr ?_ ?_ <;>
      simp [Request.checks, Request.overlay, flagOf, flagCheck, hm, hs]

@[simp] theorem lookup_nil (key : String) : Toml.lookup [] key = none := rfl

/-- A missing table fills nothing. -/
theorem HookOptions.overlay_nil (h : HookOptions) : h.overlay [] = h := by
  simp [HookOptions.overlay, textAt]

theorem fillHooks_eq (h : HookOptions) (t : Table) :
    fillCommand.fillHooks t h =
      settle (tableCheck t "hooks" :: h.checks (tableOf t "hooks"))
        (h.overlay (tableOf t "hooks")) := by
  unfold fillCommand.fillHooks
  rw [tableAt_eq, settle_bind_eq]
  cases hl : Toml.lookup t "hooks" with
  | none =>
    simp [tableCheck, tableOf, hl, HookOptions.checks, textCheck, HookOptions.overlay_nil,
      pure_eq_settle]
  | some v =>
    cases hv : v.asTable? with
    | none => simp [tableCheck, hl, hv, settle]
    | some s => simp [tableCheck, tableOf, hl, hv, fill_eq]

/-- A missing table fills nothing. -/
theorem Request.overlay_nil (j : Request) : j.overlay [] = j := by
  obtain ⟨control, source, target, masks, sort⟩ := j
  cases masks <;> simp [Request.overlay, textAt, flagOf]

theorem fillCommand_eq (c : Command) (t : Table) :
    fillCommand c t = settle (c.checks t) (c.overlay t) := by
  rcases c with h | h | j | h
  case join =>
    simp only [fillCommand, tableAt_eq, settle_bind_eq]
    cases hl : Toml.lookup t "join" with
    | none =>
      simp [tableCheck, tableOf, hl, Command.checks, Command.overlay, Request.checks, textCheck,
        flagCheck, Request.overlay_nil, pure_eq_settle]
    | some v =>
      cases hv : v.asTable? with
      | none => simp [tableCheck, hl, hv, settle, Command.checks]
      | some s =>
        simp [tableCheck, tableOf, hl, hv, fillJoin_eq, pure_eq_settle, settle_bind,
          Command.checks, Command.overlay]
  all_goals
    simp only [fillCommand, fillHooks_eq, pure_eq_settle, settle_bind, List.append_nil]
    rfl

theorem applyConfig_eq (a : Args) (t : Table) :
    a.applyConfig t = settle (a.checks t) (a.overlay t) := by
  obtain ⟨configFile, projectDir, logLevel, logFormat, logFile, color, noColor, verbose, quiet,
    command⟩ := a
  unfold Args.applyConfig
  cases command <;> cases hb : (Toml.lookup t "color").bind Toml.Value.asBool? <;>
    simp only [fillText, fillPath, fillWith_eq, flagAt_eq, settle_bind_eq, hb, fillCommand_eq, map_settle, pure_eq_settle, elim_settle] <;>
    refine settle_congr (by simp [Args.checks]) ?_ <;>
    cases color <;> cases noColor <;> simp [Args.overlay, hb]

theorem settle_eq_error {α : Type} (l : List Check) (x : α) (e : ConfigError) :
    settle l x = .error e ↔
      ∃ key expected, firstFault l = some (key, expected) ∧ e = .invalidValue key expected := by
  unfold settle
  cases firstFault l with
  | none => simp
  | some f =>
    obtain ⟨key, expected⟩ := f
    simp [eq_comm]

theorem settle_eq_ok {α : Type} (l : List Check) (x y : α) :
    settle l x = .ok y ↔ firstFault l = none ∧ y = x := by
  unfold settle
  cases firstFault l with
  | none => simp [eq_comm]
  | some f => simp

/-- Filling options from a configuration table fails exactly when some key it reads is at
fault, and then with the error naming the first such key and the kind expected there; it
succeeds exactly when no key is at fault, and then leaves every option the command line set,
takes the table's value for every one it left out, and sets the colour flags from the table's
`color` when neither was given. -/
theorem applyConfig_first_fault (a : Args) (t : Table) :
    (∀ e, a.applyConfig t = .error e ↔ ∃ key expected,
      firstFault (a.checks t) = some (key, expected) ∧ e = .invalidValue key expected) ∧
    (∀ a', a.applyConfig t = .ok a' ↔ firstFault (a.checks t) = none ∧ a' = a.overlay t) := by
  rw [applyConfig_eq]
  exact ⟨settle_eq_error _ _, settle_eq_ok _ _⟩

/- A number where the log level should be is the first fault, before a colour that is no
boolean. -/
example : ({} : Args).applyConfig [("color", .str "yes"), ("log-level", .int 3)] =
    .error (.invalidValue "log-level" "a string") := by
  rfl

end FirmwareStamp.Cli
