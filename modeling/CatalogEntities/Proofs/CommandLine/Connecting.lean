import CatalogEntities.CommandLine.Execution
import CatalogEntities.Proofs.Catalog

/-!
# `Proofs/CommandLine/Connecting.lean` — what a command connects with

Settings come from a file or from variables, and a command may change some of them afterwards.
`connectsValidly` says that a database is asked for a session only with settings that are valid all
the same, so that settings which a command has spoiled are noticed before anything happens.

To say of a program what it does not ask, connecting is left open: a command is carried out with any
`Connector` in place of the network. Two connectors that agree on valid settings then cannot be told
apart, and where the settings are refused no two can.

The same statement makes the second check of settings worth its place. Without it, a command that
names an empty schema would connect, and fail somewhere later or not at all.
-/

set_option autoImplicit false

namespace CatalogEntities

/-- **A way to connect**: what is logged, and the session or why there is none. It gets all
settings, although a session needs only those of the database. -/
abbrev Connector := Settings → List LogLine × Except Failure Session

/-- The way to connect that the program takes. -/
def Network.connector (network : Network) : Connector := fun c =>
  (Session.connectLog network c.database, Session.connect network c.database)

/-! ## Valid settings -/

namespace Settings

variable {c : Settings}

theorem valid_of_ofYamlText {text : String} (h : ofYamlText text = .ok c) : c.Valid := by
  unfold ofYamlText at h
  split at h
  · obtain ⟨rfl, hvalid⟩ := checked_eq_ok_iff.1 h
    exact hvalid
  · exact absurd h (by simp)

theorem valid_of_ofFile {fs : FileSystem} {path : String} (h : ofFile fs path = .ok c) :
    c.Valid := by
  unfold ofFile at h
  split at h
  · exact valid_of_ofYamlText h
  · exact absurd h (by simp)

theorem valid_of_ofVariables {lookup : String → Option String} (h : ofVariables lookup = .ok c) :
    c.Valid := by
  unfold ofVariables at h
  split at h
  · obtain ⟨rfl, hvalid⟩ := checked_eq_ok_iff.1 h
    exact hvalid
  · exact absurd h (by simp)

theorem valid_of_ofSurroundings {fs : FileSystem} {vars : DotEnv.Variables}
    (h : ofSurroundings fs vars = .ok c) : c.Valid := by
  unfold ofSurroundings at h
  split at h
  · exact valid_of_ofVariables h
  · exact absurd h (by simp)

theorem checked_of_not_valid (h : ¬ c.Valid) : ∃ fault, c.checked = .error (.settings fault) := by
  unfold checked
  cases hcheck : c.check with
  | ok _ => exact absurd (check_eq_ok_iff.1 hcheck) h
  | error fault => exact ⟨fault, rfl⟩

end Settings

/-- **With valid settings only the connection can fail.** -/
theorem Session.fault_of_connect {network : Network} {c : Settings} (hc : c.Valid) {f : Failure}
    (h : Session.connect network c.database = .error f) : ∃ fault, f = .connection fault := by
  obtain ⟨mode, hmode⟩ := Option.isSome_iff_exists.1 hc.tlsMode
  rcases connect_cases network c.database with
    ⟨fault, hfault, -⟩ | ⟨_, -, ⟨fault, hfails⟩ | ⟨_, -, -, -, hok⟩⟩
  · exact absurd ((Settings.tlsMode_eq_ok_iff.2 hmode).symm.trans hfault) (by simp)
  · exact ⟨fault, Except.error.inj (h.symm.trans hfails)⟩
  · exact absurd (hok.symm.trans h) (by simp)

namespace CommandLine

/-! ## Connecting left open -/

/-- A command carried out with any way to connect and with the steps of its run in any order. It is
the program with its two sources of freedom taken out; `execute_eq_executeWith` puts them back. -/
def Command.executeWith (command : Command) (connect : Connector) (schedule : Schedule)
    (files : FileSystem) (c : Settings) : Execution :=
  let log := (connect c).1.map RunEvent.noted
  match (connect c).2, command with
  | .error f, _ => ⟨files, log, .error f⟩
  | .ok session, .generate tables .. =>
      let r := Run.scheduled session.catalog c.generator tables schedule files
      ⟨r.files, log ++ r.events ++ [.noted Session.farewell], r.outcome.map .generated⟩
  | .ok session, .healthCheck =>
      ⟨files, log ++ [.noted Session.farewell], session.probe.map fun _ => .healthy c.database⟩

namespace Invocation

/-- What the program is told, carried out with any way to connect. -/
def executeWith (i : Invocation) (connect : Connector) (schedule : Schedule) (s : Surroundings) :
    Execution :=
  match i.settings s with
  | .error f => ⟨s.files, i.settingsEvents s, .error f⟩
  | .ok c =>
      let e := i.command.executeWith connect schedule s.files c
      { e with events := i.settingsEvents s ++ e.events }

variable (i : Invocation) (s : Surroundings)

/-- **The program connects through the network** and takes its steps in the standard order. -/
theorem execute_eq_executeWith : i.execute s = i.executeWith s.network.connector [] s := by
  have hcommand : ∀ c, i.command.execute s c =
      i.command.executeWith s.network.connector [] s.files c := by
    intro c
    unfold Command.execute Command.executeWith Network.connector
    cases i.command with
    | generate tables outputDir schema dryRun =>
      simp only [Surroundings.generate, Run.overDatabase]
      cases Session.connect s.network c.database <;> rfl
    | healthCheck =>
      simp only [Surroundings.checkHealth]
      cases Session.connect s.network c.database <;> rfl
  -- the commands agree, and what comes before them does not connect
  unfold execute executeWith
  cases i.settings s with
  | error f => rfl
  | ok c => simp only [hcommand]

variable {i s} {c : Settings}

theorem valid_of_writtenSettings (h : i.writtenSettings s = .ok c) : c.Valid := by
  unfold writtenSettings at h
  split at h
  · exact Settings.valid_of_ofFile h
  · exact Settings.valid_of_ofSurroundings h

/-- **The settings of a command** are written, changed and then valid, and any that are so are its
settings. -/
theorem settings_eq_ok_iff : i.settings s = .ok c ↔
    ∃ written, i.writtenSettings s = .ok written ∧ c = i.command.adjust written ∧ c.Valid := by
  unfold settings
  cases i.writtenSettings s with
  | error f => simp [bind, Except.bind]
  | ok written =>
    simp only [bind, Except.bind, Settings.checked_eq_ok_iff, Except.ok.injEq, exists_eq_left']
    constructor
    · rintro ⟨rfl, hvalid⟩
      exact ⟨rfl, hvalid⟩
    · rintro ⟨rfl, hvalid⟩
      exact ⟨rfl, hvalid⟩

theorem valid_of_settings (h : i.settings s = .ok c) : c.Valid := by
  obtain ⟨_, -, -, hvalid⟩ := settings_eq_ok_iff.1 h
  exact hvalid

theorem executeWith_of_error {f : Failure} (h : i.settings s = .error f) (connect : Connector)
    (schedule : Schedule) :
    i.executeWith connect schedule s = ⟨s.files, i.settingsEvents s, .error f⟩ := by
  rw [executeWith, h]

/-- **Only valid settings are connected with**: of two ways to connect that differ on others, no
command can tell which one it was given. -/
theorem executeWith_congr {connect other : Connector}
    (h : ∀ c, c.Valid → connect c = other c) (schedule : Schedule) :
    i.executeWith connect schedule s = i.executeWith other schedule s := by
  cases hsettings : i.settings s with
  | error f => rw [executeWith_of_error hsettings, executeWith_of_error hsettings]
  | ok c =>
    unfold executeWith Command.executeWith
    rw [hsettings]
    simp only [h c (valid_of_settings hsettings)]

theorem settings_of_spoiled (h : i.writtenSettings s = .ok c)
    (hspoiled : ¬ (i.command.adjust c).Valid) :
    ∃ fault, i.settings s = .error (.settings fault) := by
  obtain ⟨fault, hfault⟩ := Settings.checked_of_not_valid hspoiled
  refine ⟨fault, ?_⟩
  rw [settings, h]
  exact hfault

end Invocation

/-- No command makes a run write that its settings mean to be dry. -/
theorem Command.dryRun_adjust (command : Command) {c : Settings} (h : c.generator.dryRun = true) :
    (command.adjust c).generator.dryRun = true := by
  cases command with
  | generate tables outputDir schema dryRun => exact Bool.or_eq_true_iff.2 (Or.inl h)
  | healthCheck => exact h

/-! ## All together -/

/-- **A command connects with valid settings only.** The clauses say what connecting can depend on,
where the settings come from, what a command may change of them, and what happens when it has
spoiled them. -/
structure ConnectsValidly (i : Invocation) (s : Surroundings) : Prop where
  /-- What is said below of all ways to connect is said of the program, which takes one of them. -/
  executed : i.execute s = i.executeWith s.network.connector [] s
  /-- Ways to connect that agree on valid settings make no difference. -/
  asked : ∀ connect other : Connector, (∀ c, c.Valid → connect c = other c) →
    ∀ schedule, i.executeWith connect schedule s = i.executeWith other schedule s
  /-- With valid settings it is never for the settings that there is no session. -/
  unharmed : ∀ (network : Network) (c : Settings), c.Valid →
    ∀ fault, Session.connect network c.database ≠ .error (.settings fault)
  /-- Settings are valid before a command has changed them, and after. -/
  valid : ∀ c, i.writtenSettings s = .ok c ∨ i.settings s = .ok c → c.Valid
  /-- Whatever settings are read from, they are valid. -/
  readers : ∀ c : Settings,
    (∃ fs path, Settings.ofFile fs path = .ok c) ∨ (∃ text, Settings.ofYamlText text = .ok c) ∨
      (∃ lookup, Settings.ofVariables lookup = .ok c) ∨
      (∃ fs vars, Settings.ofSurroundings fs vars = .ok c) → c.Valid
  /-- What a command has spoiled ends it, before anyone is asked and with the files as they are. -/
  spoiled : ∀ c, i.writtenSettings s = .ok c → ¬ (i.command.adjust c).Valid →
    ∃ fault, ∀ connect schedule, i.executeWith connect schedule s =
        ⟨s.files, i.settingsEvents s, .error (.settings fault)⟩ ∧
      (i.executeWith connect schedule s).exitCode = 1
  /-- What is connected with is what was written, with what the command says put in its place. -/
  used : ∀ c, i.settings s = .ok c ↔
    ∃ written, i.writtenSettings s = .ok written ∧ c = i.command.adjust written ∧ c.Valid
  /-- The command that generates puts in its place the schema and the output directory if it names
  them, switches a dry run on if it asks for one, and leaves every other field. -/
  adjusted : ∀ tables outputDir schema dryRun,
    i.command = .generate tables outputDir schema dryRun → ∀ c, i.command.adjust c =
      ⟨{ c.database with schema := schema.getD c.database.schema },
        { c.generator with
          outputDir := outputDir.getD c.generator.outputDir
          dryRun := c.generator.dryRun || dryRun }⟩
  /-- The command that asks for the health of a database leaves the settings alone. -/
  kept : i.command = .healthCheck → ∀ c, i.command.adjust c = c
  /-- A dry run stays one. -/
  dry : ∀ c : Settings, c.generator.dryRun = true → (i.command.adjust c).generator.dryRun = true

/-- **No command connects with settings that are not valid**, wherever they come from and whatever
the command says about them. -/
theorem connectsValidly (i : Invocation) (s : Surroundings) : ConnectsValidly i s where
  executed := i.execute_eq_executeWith s
  asked _ _ h schedule := Invocation.executeWith_congr h schedule
  unharmed network c hc fault h := by
    obtain ⟨_, hconnection⟩ := Session.fault_of_connect hc h
    exact absurd hconnection (by simp)
  valid c h := h.elim Invocation.valid_of_writtenSettings Invocation.valid_of_settings
  readers c h := by
    rcases h with ⟨fs, path, h⟩ | ⟨text, h⟩ | ⟨lookup, h⟩ | ⟨fs, vars, h⟩
    · exact Settings.valid_of_ofFile h
    · exact Settings.valid_of_ofYamlText h
    · exact Settings.valid_of_ofVariables h
    · exact Settings.valid_of_ofSurroundings h
  spoiled c hwritten hspoiled := by
    obtain ⟨fault, hfault⟩ := Invocation.settings_of_spoiled hwritten hspoiled
    refine ⟨fault, fun connect schedule => ?_⟩
    rw [Invocation.executeWith_of_error hfault]
    exact ⟨rfl, rfl⟩
  used _ := Invocation.settings_eq_ok_iff
  adjusted tables outputDir schema dryRun hcommand c := by
    rw [hcommand]
    rfl
  kept hcommand c := by
    rw [hcommand]
    rfl
  dry _ := i.command.dryRun_adjust

end CommandLine

end CatalogEntities
