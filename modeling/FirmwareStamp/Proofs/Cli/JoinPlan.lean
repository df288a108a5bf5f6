import FirmwareStamp.Proofs.Cli.Show
import FirmwareStamp.Cli.Run
import FirmwareStamp.Proofs.Disk.Links

/-!
The plan a join from the command line follows. Four layers give its fields: the command
line, the `join` table of the configuration file in effect (whichever file discovery picks),
the control file the command line or else the configuration names, and the defaults. The
configuration only fills what the command line left out: its texts where none was given,
its masks where the command line gave none, its flag where sorting was not asked for
(`FilledFrom`). The join then takes masks and target from the control file where the
filled request has none, and sorts when either asks (`layeredPlan`). A named control file
that is no regular file stops the join before the target is touched.
-/

namespace FirmwareStamp.Cli

open Join FirmwareStamp.Action

/-- The text a table gives under a key, if it gives one. -/
def textAt (s : Table) (key : String) : Option String := (Toml.lookup s key).bind Toml.Value.asStr?

/-- The flag a table gives under a key, off when it gives none. -/
def flagOf (s : Table) (key : String) : Bool :=
  ((Toml.lookup s key).bind Toml.Value.asBool?).getD false

/-- The masks a table gives: one text or an array of texts, none otherwise. -/
def masksOf (s : Table) : List String :=
  match textsAt s "masks" with
  | .ok ms => ms
  | .error _ => []

/-- The join table of a configuration, empty when there is none. -/
def joinSection (t : Table) : Table :=
  match tableAt t "join" with
  | .ok (some s) => s
  | _ => []

/-- `t` is the table of the configuration file in effect: the file discovery picks, read
and parsed, or the empty table when discovery picks none. -/
inductive ConfigTable (a : Args) (d : Disk) (u : Option String) : Table → Prop
  | none : a.discoverConfig d u = .ok none → ConfigTable a d u []
  | file {path text : String} {t : Table} : a.discoverConfig d u = .ok (some path) →
      d.readText path = .ok text → Toml.parse text = .ok t → ConfigTable a d u t

/-- `j'` is `j` with the options it left out taken from the join table `s`. -/
structure FilledFrom (j : Request) (s : Table) (j' : Request) : Prop where
  control : j'.control = j.control.or (textAt s "ctrl")
  source : j'.source = j.source.or (textAt s "src")
  target : j'.target = j.target.or (textAt s "target")
  masks : j'.masks = if j.masks.isEmpty then masksOf s else j.masks
  sort : j'.sort = (j.sort || flagOf s "sort")

/-- The plan of a join, each field from the first layer that gives it: the command line,
the configuration's join table, the control file, the defaults. -/
def layeredPlan (j : Request) (s : Table) (control : Option Control) : Plan where
  masks :=
    if !j.masks.isEmpty then j.masks
    else if !(masksOf s).isEmpty then masksOf s
    else (control.map (·.files)).getD defaultMasks
  targetFile :=
    (j.target.or (textAt s "target")).getD ((control.bind (·.targetFile)).getD defaultTarget)
  sort := j.sort || flagOf s "sort" || (control.map (·.sort)).getD false

theorem fillWith_ok {e : String} {s : Table} {key : String} {cur v : Option String}
    (h : fillWith e s key cur = .ok v) : v = cur.or (textAt s key) := by
  unfold fillWith at h
  cases cur with
  | some x =>
    simp only [Except.ok.injEq] at h
    subst h
    rfl
  | none =>
    cases hl : Toml.lookup s key with
    | none =>
      simp only [hl, Except.ok.injEq] at h
      subst h
      simp [textAt, hl]
    | some val =>
      cases hv : val.asStr? with
      | none => simp [hl, hv] at h
      | some x =>
        simp only [hl, hv, Except.ok.injEq] at h
        subst h
        simp [textAt, hl, hv]

theorem fillWith_nil (e key : String) (cur : Option String) : fillWith e [] key cur = .ok cur := by
  cases cur <;> rfl

theorem flagAt_ok {s : Table} {key : String} {b : Option Bool} (h : flagAt s key = .ok b) :
    b.getD false = flagOf s key := by
  unfold flagAt at h
  cases hl : Toml.lookup s key with
  | none =>
    simp only [hl, Except.ok.injEq] at h
    subst h
    simp [flagOf, hl]
  | some val =>
    cases hv : val.asBool? with
    | none => simp [hl, hv] at h
    | some x =>
      simp only [hl, hv, Except.ok.injEq] at h
      subst h
      simp [flagOf, hl, hv]

theorem exists_of_bind_eq_ok {ε α β : Type} {x : Except ε α} {f : α → Except ε β} {b : β}
    (h : x >>= f = .ok b) : ∃ a, x = .ok a ∧ f a = .ok b := by
  cases x with
  | error e => cases h
  | ok a => exact ⟨a, rfl, h⟩

theorem exists_of_map_eq_ok {ε α β : Type} {x : Except ε α} {f : α → β} {b : β}
    (h : f <$> x = .ok b) : ∃ a, x = .ok a ∧ f a = b := by
  cases x with
  | error e => cases h
  | ok a => exact ⟨a, rfl, Except.ok.inj h⟩

theorem masksOf_of_textsAt {s : Table} {ms : List String} (h : textsAt s "masks" = .ok ms) :
    masksOf s = ms := by
  simp [masksOf, h]

theorem flagOf_of_flagAt {s : Table} {key : String} {b : Bool}
    (h : (fun o => Option.getD o false) <$> flagAt s key = .ok b) : b = flagOf s key := by
  obtain ⟨o, hf, rfl⟩ := exists_of_map_eq_ok h
  exact flagAt_ok hf

theorem FilledFrom.nil (j : Request) : FilledFrom j [] j := by
  refine ⟨by simp [textAt, Toml.lookup], by simp [textAt, Toml.lookup],
    by simp [textAt, Toml.lookup], ?_, by simp [flagOf, Toml.lookup]⟩
  cases hm : j.masks.isEmpty
  · rfl
  · simp [masksOf, textsAt, Toml.lookup, List.isEmpty_iff.mp hm]

theorem fillJoin_ok {j j' : Request} {s : Table} (h : fillJoin j s = .ok j') :
    FilledFrom j s j' := by
  unfold fillJoin at h
  obtain ⟨c, hc, h⟩ := exists_of_bind_eq_ok h
  obtain ⟨src, hsrc, h⟩ := exists_of_bind_eq_ok h
  obtain ⟨tgt, htgt, h⟩ := exists_of_bind_eq_ok h
  dsimp only at h
  cases hm : j.masks.isEmpty <;> cases hs : j.sort <;>
    simp only [hm, hs, Bool.false_eq_true, if_false, if_true] at h <;>
    obtain ⟨ms, hms, h⟩ := exists_of_bind_eq_ok h <;>
    obtain ⟨b, hb, h⟩ := exists_of_bind_eq_ok h <;>
    cases h
  · obtain rfl : j.masks = ms := Except.ok.inj hms
    exact ⟨fillWith_ok hc, fillWith_ok hsrc, fillWith_ok htgt, by simp [hm],
      by simp [hs, flagOf_of_flagAt hb]⟩
  · obtain rfl : j.masks = ms := Except.ok.inj hms
    obtain rfl : true = b := Except.ok.inj hb
    exact ⟨fillWith_ok hc, fillWith_ok hsrc, fillWith_ok htgt, by simp [hm], by simp [hs]⟩
  · exact ⟨fillWith_ok hc, fillWith_ok hsrc, fillWith_ok htgt, by simp [hm, masksOf_of_textsAt hms],
      by simp [hs, flagOf_of_flagAt hb]⟩
  · obtain rfl : true = b := Except.ok.inj hb
    exact ⟨fillWith_ok hc, fillWith_ok hsrc, fillWith_ok htgt, by simp [hm, masksOf_of_textsAt hms],
      by simp [hs]⟩

theorem fillCommand_join {j : Request} {t : Table} {c : Command}
    (h : fillCommand (.join j) t = .ok c) : ∃ j', c = .join j' ∧ FilledFrom j (joinSection t) j' := by
  unfold fillCommand at h
  obtain ⟨o, ho, h⟩ := exists_of_bind_eq_ok h
  cases o with
  | none =>
    obtain rfl : Command.join j = c := Except.ok.inj h
    have hs : joinSection t = [] := by simp [joinSection, ho]
    exact ⟨j, rfl, hs ▸ FilledFrom.nil j⟩
  | some s =>
    obtain ⟨j', hj', h⟩ := exists_of_bind_eq_ok h
    obtain rfl : Command.join j' = c := Except.ok.inj h
    have hs : joinSection t = s := by simp [joinSection, ho]
    exact ⟨j', rfl, hs ▸ fillJoin_ok hj'⟩

/-- A configuration that applies sets the project directory the command line left out and
fills the command from its table. -/
theorem applyConfig_ok {a a' : Args} {t : Table} (h : a.applyConfig t = .ok a') :
    a'.projectDir = a.projectDir.or (textAt t "project-dir") ∧
    ∀ c, a.command = some c → ∃ c', a'.command = some c' ∧ fillCommand c t = .ok c' := by
  unfold Args.applyConfig at h
  obtain ⟨_, -, h⟩ := exists_of_bind_eq_ok h
  obtain ⟨_, -, h⟩ := exists_of_bind_eq_ok h
  obtain ⟨_, -, h⟩ := exists_of_bind_eq_ok h
  obtain ⟨p, hp, h⟩ := exists_of_bind_eq_ok h
  obtain ⟨w, -, h⟩ := exists_of_bind_eq_ok h
  dsimp only at h
  generalize a.command = given at h ⊢
  cases given with
  | none =>
    split at h <;> simp only [pure_bind] at h <;> (try split at h) <;> cases h <;>
      exact ⟨fillWith_ok hp, fun c hc => by cases hc⟩
  | some c =>
    have hfin : ∀ f : Option Command → Args, (∀ cmd, (f cmd).projectDir = p ∧ (f cmd).command = cmd) →
        (some <$> fillCommand c t >>= fun command => pure (f command)) = .ok a' →
        a'.projectDir = a.projectDir.or (textAt t "project-dir") ∧
        ∀ c', some c = some c' → ∃ c'', a'.command = some c'' ∧ fillCommand c' t = .ok c'' := by
      intro f hf h
      obtain ⟨cmd, hcmd, h⟩ := exists_of_bind_eq_ok h
      obtain rfl : f cmd = a' := Except.ok.inj h
      refine ⟨(hf cmd).1 ▸ fillWith_ok hp, fun c' hc' => ?_⟩
      obtain rfl := Option.some.inj hc'
      obtain ⟨c'', hfc, rfl⟩ := exists_of_map_eq_ok hcmd
      exact ⟨c'', (hf _).2, hfc⟩
    split at h <;> simp only [pure_bind] at h <;> (try split at h) <;>
      exact hfin _ (fun _ => ⟨rfl, rfl⟩) h

/-- A configuration that applies leaves a join a join, filled from its join table. -/
theorem applyConfig_join {a a' : Args} {t : Table} {j : Request} (hcmd : a.command = some (.join j))
    (h : a.applyConfig t = .ok a') :
    ∃ j', a'.command = some (.join j') ∧ FilledFrom j (joinSection t) j' := by
  obtain ⟨c, hcmd', hfill⟩ := (applyConfig_ok h).2 _ hcmd
  obtain ⟨j', rfl, hj'⟩ := fillCommand_join hfill
  exact ⟨j', hcmd', hj'⟩

/-- An empty configuration changes no option. -/
theorem applyConfig_nil (a : Args) : a.applyConfig [] = .ok a := by
  cases a with
  | mk configFile projectDir logLevel logFormat logFile color noColor verbose quiet command =>
    cases command with
    | none =>
      simp [Args.applyConfig, fillText, fillPath, fillWith_nil, flagAt, Toml.lookup, bind,
        Except.bind, pure, Except.pure]
    | some c =>
      cases c <;> simp [Args.applyConfig, fillText, fillPath, fillWith_nil, flagAt, fillCommand,
        tableAt, fillCommand.fillHooks, Toml.lookup, bind, Except.bind, pure, Except.pure,
        Functor.map, Except.map]

theorem loadConfig_of_table {a a' : Args} {d : Disk} {u : Option String} {t : Table}
    (hconf : ConfigTable a d u t) (happly : a.applyConfig t = .ok a') :
    ∃ p, a.loadConfig d u = .ok (a', p) := by
  cases hconf with
  | none hdisc =>
    obtain rfl : a = a' := by
      rw [applyConfig_nil] at happly
      exact Except.ok.inj happly
    exact ⟨none, by simp [Args.loadConfig, hdisc, bind, Except.bind, pure, Except.pure]⟩
  | @file path text t hdisc hread hparse =>
    exact ⟨some path, by simp [Args.loadConfig, hdisc, hread, hparse, happly, bind, Except.bind,
      pure, Except.pure]⟩

/-- A command line whose command is a join prepares the log file and then joins. -/
theorem run_join {env : Environment} {args a' : Args} {j' : Request} {d : Disk}
    {p : Option String} (hload : args.loadConfig d env.userConfigDir = .ok (a', p))
    (hcmd : a'.command = some (.join j')) :
    (Cli.run env args).run d = (statusOf j'.run).run ((prepareLogFile a').run d).2 := by
  simp [Cli.run, hload, hcmd]
  rfl

theorem request_run (r : Request) (d : Disk) :
    r.run.run d =
      match r.control with
      | none => (aggregate (r.source.getD ".") (Plan.resolve none r.masks r.target r.sort)).run d
      | some c =>
        match Control.load d c with
        | .ok ctl =>
          (aggregate (r.source.getD ".") (Plan.resolve (some ctl) r.masks r.target r.sort)).run d
        | .error e => (.error e, d) := by
  unfold Request.run
  cases hc : r.control with
  | none => simp
  | some c =>
    simp only [run_bind, run_get]
    rcases Control.load d c with e | ctl
    · rfl
    · simp

/-- The plan of a filled request, with or without a control file, is the layered plan. -/
theorem resolve_filled {j j' : Request} {s : Table} (h : FilledFrom j s j')
    (control : Option Control) :
    Plan.resolve control j'.masks j'.target j'.sort = layeredPlan j s control := by
  rw [h.masks, h.target, h.sort]
  cases control <;> cases hm : j.masks.isEmpty <;> cases hms : (masksOf s).isEmpty <;>
    simp [Plan.resolve, layeredPlan, hm, hms, Control.default]

/- An empty masks array in the join table falls through to the control file; a single text
counts as a list of one. -/
example : ((fillJoin {} [("masks", .arr [])]).toOption.map fun j =>
    (Plan.resolve (some ⟨["a.c"], none, false⟩) j.masks j.target j.sort).masks) = some ["a.c"] := by
  decide

example : ((fillJoin {} [("masks", .str "b.c")]).toOption.map fun j =>
    (Plan.resolve (some ⟨["a.c"], none, false⟩) j.masks j.target j.sort).masks) = some ["b.c"] := by
  decide

/-- A join run from the command line, with any configuration file that discovery picks and
that applies: after the log file's directories are made, it runs the request the command
line and the configuration's join table fill in, and that request joins by the layered
plan, below the source directory of the first layer that names one. A control file named on
the command line or else in the configuration that is no regular file stops the join with
nothing written. -/
theorem join_plan_layers {env : Environment} {args args' : Args} {j : Request} {d : Disk}
    {t : Table} (hcmd : args.command = some (.join j))
    (hconf : ConfigTable args d env.userConfigDir t) (happly : args.applyConfig t = .ok args') :
    ∃ j', args'.command = some (.join j') ∧
      (Cli.run env args).run d = (statusOf j'.run).run ((prepareLogFile args').run d).2 ∧
      ∀ d0, j'.run.run d0 =
        match j.control.or (textAt (joinSection t) "ctrl") with
        | none => (aggregate ((j.source.or (textAt (joinSection t) "src")).getD ".")
            (layeredPlan j (joinSection t) none)).run d0
        | some c =>
          if d0.isFile c then
            match Control.load d0 c with
            | .ok ctl => (aggregate ((j.source.or (textAt (joinSection t) "src")).getD ".")
                (layeredPlan j (joinSection t) (some ctl))).run d0
            | .error e => (.error e, d0)
          else (.error (.controlMissing c), d0) := by
  obtain ⟨j', hcmd', hfill⟩ := applyConfig_join hcmd happly
  obtain ⟨p, hload⟩ := loadConfig_of_table hconf happly
  refine ⟨j', hcmd', run_join hload hcmd', fun d0 => ?_⟩
  rw [request_run, hfill.control, hfill.source]
  cases j.control.or (textAt (joinSection t) "ctrl") with
  | none => rw [resolve_filled hfill]
  | some c =>
    dsimp only
    by_cases hc : d0.isFile c = true
    · rw [if_pos hc]
      rcases Control.load d0 c with e | ctl
      · rfl
      · dsimp only
        rw [resolve_filled hfill]
    · rw [if_neg hc]
      simp [Control.load, hc]

theorem pieces_config : Disk.pieces "./buildstamp.toml" = [".", "buildstamp.toml"] := by decide

/-- A configuration text that reads is the table it reads as. -/
theorem parse_eq_read {text : String} (h : (Toml.parse text).isOk = true) :
    Toml.parse text = .ok ((Toml.parse text).toOption.getD []) := by
  cases hp : Toml.parse text with
  | ok t => rfl
  | error e =>
    rw [hp] at h
    exact absurd h Bool.false_ne_true

/-- A configuration that names the control file and gives masks and a target. -/
def joinConfigText : String :=
  "[join]\nctrl = \"ctl.json\"\ntarget = \"cfg.bin\"\nmasks = \"*.c\"\n"

/-- The table that configuration reads as. -/
def joinTable : Table := (Toml.parse joinConfigText).toOption.getD []

/-- A control file with masks, a target and sorting on. -/
def controlText : String :=
  "\x7b\"files\": [\"*.h\"], \"targetfile\": \"ctl.bin\", \"sort\": true\x7d"

def joinDisk : Disk :=
  ⟨[(["buildstamp.toml"], .file joinConfigText.toUTF8.toList),
    (["ctl.json"], .file controlText.toUTF8.toList)], []⟩

/-- A join with only a target on the command line. -/
def layeredJoin : Args := { command := some (.join { target := some "cli.bin" }) }

def layeredFilled : Args :=
  { command := some (.join ⟨some "ctl.json", none, some "cli.bin", ["*.c"], false⟩) }

theorem pieces_ctl : Disk.pieces "ctl.json" = ["ctl.json"] := by decide

theorem joinDisk_config : joinDisk.locate true "./buildstamp.toml" =
    .ok (.found ["buildstamp.toml"] (.file joinConfigText.toUTF8.toList) false) := by
  simp +decide [Disk.locate, Disk.locateWith, joinDisk, Disk.walk, Disk.node?, pieces_config,
    Disk.wantsDir]

theorem joinDisk_control : joinDisk.locate true "ctl.json" =
    .ok (.found ["ctl.json"] (.file controlText.toUTF8.toList) false) := by
  simp +decide [Disk.locate, Disk.locateWith, joinDisk, Disk.walk, Disk.node?, pieces_ctl,
    Disk.wantsDir]

theorem layeredJoin_config : ConfigTable layeredJoin joinDisk none joinTable := by
  have hpath : Path.join "." configFileName = "./buildstamp.toml" := by decide
  have hfile : joinDisk.isFile "./buildstamp.toml" = true := Disk.isFile_of_locate joinDisk_config
  refine .file ?_ (Version.readText_found joinDisk_config) (parse_eq_read (by decide +kernel))
  simp [Args.discoverConfig, layeredJoin, Args.projectDirOrCurrent, hpath, hfile]

theorem layeredJoin_apply : layeredJoin.applyConfig joinTable = .ok layeredFilled := by
  decide +kernel

theorem layeredJoin_control :
    Control.load joinDisk "ctl.json" = .ok ⟨["*.h"], some "ctl.bin", true⟩ := by
  have hparse : Control.parseJson controlText = .ok ⟨["*.h"], some "ctl.bin", true⟩ := by
    decide +kernel
  simp [Control.load, Disk.isFile_of_locate joinDisk_control,
    Version.readText_found joinDisk_control, hparse]

/-- Each layer gives a field of the plan: the command line the target over the configuration
and the control file, the configuration the control file and the masks over the control
file's, the control file the sorting, and the default the source directory. -/
theorem each_layer_fills_the_plan :
    layeredJoin.command = some (.join { target := some "cli.bin" }) ∧
    ConfigTable layeredJoin joinDisk none joinTable ∧
    layeredJoin.applyConfig joinTable = .ok layeredFilled ∧
    Control.load joinDisk "ctl.json" = .ok ⟨["*.h"], some "ctl.bin", true⟩ ∧
    ∃ j', layeredFilled.command = some (.join j') ∧
      (Cli.run ⟨none, ⟨"0", "now"⟩⟩ layeredJoin).run joinDisk =
        (statusOf j'.run).run ((prepareLogFile layeredFilled).run joinDisk).2 ∧
      j'.run.run joinDisk = (aggregate "." ⟨["*.c"], "cli.bin", true⟩).run joinDisk := by
  have hcmd : layeredJoin.command = some (.join { target := some "cli.bin" }) := rfl
  have hconf : ConfigTable layeredJoin joinDisk
      (Environment.userConfigDir ⟨none, ⟨"0", "now"⟩⟩) joinTable := layeredJoin_config
  obtain ⟨j', hj', hrun, hplan⟩ := join_plan_layers hcmd hconf layeredJoin_apply
  refine ⟨hcmd, hconf, layeredJoin_apply, layeredJoin_control, j', hj', hrun, ?_⟩
  have hlayer : layeredPlan { target := some "cli.bin" } (joinSection joinTable)
      (some ⟨["*.h"], some "ctl.bin", true⟩) = ⟨["*.c"], "cli.bin", true⟩ := by decide +kernel
  have hctrl : (none : Option String).or (textAt (joinSection joinTable) "ctrl") =
      some "ctl.json" := by decide +kernel
  have hsrc : ((none : Option String).or (textAt (joinSection joinTable) "src")).getD "." =
      "." := by decide +kernel
  rw [hplan joinDisk, hctrl]
  simp only [Disk.isFile_of_locate joinDisk_control, if_true, layeredJoin_control, hlayer, hsrc]

end FirmwareStamp.Cli