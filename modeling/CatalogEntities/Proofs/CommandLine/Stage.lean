import CatalogEntities.Proofs.CommandLine.Connecting
import CatalogEntities.Proofs.Run.FailFast

/-!
# `Proofs/CommandLine/Stage.lean` — what the exit code of a command tells

A command that generates reads settings, connects, lists tables, describes them and writes files,
and when it fails its exit code is meant to tell at which of these stages. `EndsAt` says of each
stage what it is to end there, in terms of what went wrong and not of what is reported.

`tellsStage` says what the exit code does tell: every stage but one has a code from which it can be
known. The exception is the listing. A query that lists the tables and is refused by a server that
was reached has the code of connecting (`refused_listing_told_as_connecting`), although it is a
query of the catalog like those that describe a table.

The proof goes both ways by one case distinction each. That a stage has its code is read off the
stage (`EndsAt.exitCode`), that every failure is at a stage is read off the failed step of the run
(`exists_endsAt`), and codes that only one stage has then tell it.
-/

set_option autoImplicit false

namespace CatalogEntities

namespace CommandLine

/-! ## Stages -/

/-- **A stage of a command that generates**, in the order in which a command comes through them. -/
inductive Stage
  | reading
  | settings
  | connecting
  | listing
  | describing
  | writing
  deriving Repr, DecidableEq

namespace Stage

def all : List Stage := [reading, settings, connecting, listing, describing, writing]

theorem mem_all (stage : Stage) : stage ∈ all := by
  cases stage <;> decide

/-- The exit codes as they are documented: connecting is one thing, and asking the catalog another.
-/
def exitCode : Stage → UInt8
  | reading => 7
  | settings => 1
  | connecting => 2
  | listing | describing => 3
  | writing => 4

/-- The exit code that a stage really has. -/
def toldCode : Stage → UInt8
  | listing => connecting.exitCode
  | stage => stage.exitCode

end Stage

/-- **What is written decodes to some settings**, which may not be valid. A file that is named is
the only source, and without one the variables are. -/
inductive Invocation.Decodes (i : Invocation) (s : Surroundings) : Settings → Prop
  | file {path text : String} {c : Settings} (hpath : i.settingsPath = some path)
      (hread : s.files.readText path = .ok text) (hdecode : Settings.decodeYaml text = .ok c) :
      Decodes i s c
  | environment {vars : DotEnv.Variables} {c : Settings} (hpath : i.settingsPath = none)
      (hload : DotEnv.loadFrom s.files s.environment = .ok vars)
      (hgather : Settings.gather vars.find? = .ok c) : Decodes i s c

/-- A file of settings is named and cannot be read. -/
def Invocation.LacksFile (i : Invocation) (s : Surroundings) : Prop :=
  ∃ path fault, i.settingsPath = some path ∧ s.files.readText path = .error fault

/-- **A command goes to work with settings**: what is written decodes and is valid, and still is
when the command has had its say. -/
def Invocation.Uses (i : Invocation) (s : Surroundings) (c : Settings) : Prop :=
  ∃ written, i.Decodes s written ∧ written.Valid ∧ c = i.command.adjust written ∧ c.Valid

/-- **A command enters a database**: it has settings, and with them a session. -/
structure Invocation.Enters (i : Invocation) (s : Surroundings) (c : Settings)
    (session : Session) : Prop where
  uses : i.Uses s c
  connected : Session.connect s.network c.database = .ok session

/-- **A command ends at a stage**, with the steps of its run in the order of a schedule. Each case
holds what went wrong, as the machine or the server would tell it. -/
inductive Invocation.EndsAt (i : Invocation) (tables : List String) (s : Surroundings)
    (schedule : Schedule) : Stage → Prop
  | reading (h : i.LacksFile s) : EndsAt i tables s schedule .reading
  | settings (hread : ¬ i.LacksFile s) (h : ∀ c, ¬ i.Uses s c) :
      EndsAt i tables s schedule .settings
  | connecting {c : Settings} {f : Failure} (hc : i.Uses s c)
      (h : Session.connect s.network c.database = .error f) :
      EndsAt i tables s schedule .connecting
  | listing {c : Settings} {session : Session} {fault : DatabaseFault} (hc : i.Enters s c session)
      (h : session.ask (.listing session.schema tables c.generator.excludedTables) () =
        .error fault) : EndsAt i tables s schedule .listing
  | describing {c : Settings} {session : Session} {turn : Turn} {table : String}
      {query : TableQuery} {fault : DatabaseFault} (hc : i.Enters s c session)
      (hturn : turn ∈ Run.turns session.catalog c.generator tables schedule s.files)
      (hjob : turn.job = .waiting table)
      (h : session.ask (.describe query session.schema table) () = .error fault) :
      EndsAt i tables s schedule .describing
  | directory {c : Settings} {session : Session} {set : TableSet} {base : FileSystem}
      {fault : SystemFault} (hc : i.Enters s c session)
      (hset : session.list tables c.generator.excludedTables = .ok set)
      (hwrites : c.generator.dryRun = false)
      (h : s.files.makeDirectories c.generator.outputDir = (base, .error fault)) :
      EndsAt i tables s schedule .writing
  | staging {c : Settings} {session : Session} {turn : Turn} {file : EntityFile}
      {fault : SystemFault} (hc : i.Enters s c session)
      (hturn : turn ∈ Run.turns session.catalog c.generator tables schedule s.files)
      (hjob : turn.job = .rendered file)
      (h : turn.files.writeFile (Job.temporaryPath (Job.path c.generator file))
        file.contents.toByteArray = .error fault) : EndsAt i tables s schedule .writing
  | publishing {c : Settings} {session : Session} {turn : Turn} {file : EntityFile}
      {fault : SystemFault} (hc : i.Enters s c session)
      (hturn : turn ∈ Run.turns session.catalog c.generator tables schedule s.files)
      (hjob : turn.job = .staged file)
      (h : turn.files.renameFile (Job.temporaryPath (Job.path c.generator file))
        (Job.path c.generator file) = .error fault) : EndsAt i tables s schedule .writing

namespace Invocation

variable {i : Invocation} {tables : List String} {outputDir schema : Option String} {dryRun : Bool}
  {s : Surroundings} {schedule : Schedule} {c : Settings} {session : Session} {f : Failure}

/-! ## Settings -/

theorem Decodes.not_lacksFile (h : i.Decodes s c) : ¬ i.LacksFile s := by
  rintro ⟨path, fault, hpath, hfault⟩
  cases h with
  | file hother hread =>
    rw [← Option.some.inj (hpath.symm.trans hother), hfault] at hread
    exact absurd hread (by simp)
  | environment hother => exact absurd (hpath.symm.trans hother) (by simp)

theorem Decodes.writtenSettings_eq (h : i.Decodes s c) : i.writtenSettings s = c.checked := by
  cases h with
  | file hpath hread hdecode =>
    simp only [writtenSettings, hpath, Settings.ofFile, hread, Settings.ofYamlText, hdecode]
  | environment hpath hload hgather =>
    simp only [writtenSettings, hpath, Settings.ofSurroundings, hload, Settings.ofVariables,
      hgather]

/-- **What does not decode** is missing for want of a file, or for what is written. -/
theorem decodes_or_fails (i : Invocation) (s : Surroundings) :
    (∃ c, i.Decodes s c) ∨ ∃ f, i.writtenSettings s = .error f ∧
      (i.LacksFile s ∧ f.exitCode = 7 ∨ ¬ i.LacksFile s ∧ f.exitCode = 1) := by
  -- a file is read and then decoded; without one, variables are loaded and then gathered
  cases hpath : i.settingsPath with
  | some path =>
    simp only [writtenSettings, hpath, Settings.ofFile]
    cases hread : s.files.readText path with
    | error fault =>
      -- the only way to the code for files
      exact Or.inr ⟨_, rfl, Or.inl ⟨⟨path, fault, hpath, hread⟩, rfl⟩⟩
    | ok text =>
      cases hdecode : Settings.decodeYaml text with
      | ok c => exact Or.inl ⟨c, .file hpath hread hdecode⟩
      | error fault =>
        refine Or.inr ⟨.yaml fault, by simp only [Settings.ofYamlText, hdecode], Or.inr ⟨?_, rfl⟩⟩
        rintro ⟨other, fault, hother, hfault⟩
        rw [← Option.some.inj (hpath.symm.trans hother), hread] at hfault
        exact absurd hfault (by simp)
  | none =>
    have hfile : ¬ i.LacksFile s := by
      rintro ⟨other, fault, hother, -⟩
      exact absurd (hpath.symm.trans hother) (by simp)
    simp only [writtenSettings, hpath, Settings.ofSurroundings]
    cases hload : DotEnv.loadFrom s.files s.environment with
    | error fault => exact Or.inr ⟨_, rfl, Or.inr ⟨hfile, rfl⟩⟩
    | ok vars =>
      cases hgather : Settings.gather vars.find? with
      | ok c => exact Or.inl ⟨c, .environment hpath hload hgather⟩
      | error fault =>
        exact Or.inr ⟨.settings fault, by simp only [Settings.ofVariables, hgather],
          Or.inr ⟨hfile, rfl⟩⟩

theorem writtenSettings_eq_ok_iff : i.writtenSettings s = .ok c ↔ i.Decodes s c ∧ c.Valid := by
  constructor
  · intro h
    rcases decodes_or_fails i s with ⟨read, hdecodes⟩ | ⟨f, hfails, -⟩
    · rw [hdecodes.writtenSettings_eq] at h
      obtain ⟨rfl, hvalid⟩ := Settings.checked_eq_ok_iff.1 h
      exact ⟨hdecodes, hvalid⟩
    · exact absurd (hfails.symm.trans h) (by simp)
  · rintro ⟨hdecodes, hvalid⟩
    rw [hdecodes.writtenSettings_eq]
    exact Settings.checked_eq_ok_iff.2 ⟨rfl, hvalid⟩

theorem uses_iff : i.Uses s c ↔ i.settings s = .ok c := by
  rw [settings_eq_ok_iff]
  constructor
  · rintro ⟨written, hdecodes, hvalid, hc⟩
    exact ⟨written, writtenSettings_eq_ok_iff.2 ⟨hdecodes, hvalid⟩, hc⟩
  · rintro ⟨written, hwritten, hc⟩
    obtain ⟨hdecodes, hvalid⟩ := writtenSettings_eq_ok_iff.1 hwritten
    exact ⟨written, hdecodes, hvalid, hc⟩

theorem exitCode_of_checked (h : c.checked = .error f) : f.exitCode = 1 := by
  unfold Settings.checked at h
  split at h
  · exact absurd h (by simp)
  · rw [← Except.error.inj h]
    rfl

theorem exitCode_of_writtenSettings (h : i.writtenSettings s = .error f) :
    i.LacksFile s ∧ f.exitCode = 7 ∨ ¬ i.LacksFile s ∧ f.exitCode = 1 := by
  rcases decodes_or_fails i s with ⟨read, hdecodes⟩ | ⟨g, hfails, hcode⟩
  · rw [hdecodes.writtenSettings_eq] at h
    exact Or.inr ⟨hdecodes.not_lacksFile, exitCode_of_checked h⟩
  · rw [← Except.error.inj (hfails.symm.trans h)]
    exact hcode

/-- Without settings the code is that of a missing file or that of invalid settings. -/
theorem exitCode_of_settings (h : i.settings s = .error f) :
    i.LacksFile s ∧ f.exitCode = 7 ∨ ¬ i.LacksFile s ∧ f.exitCode = 1 := by
  cases hwritten : i.writtenSettings s with
  | error g =>
    rw [settings, hwritten] at h
    rw [← Except.error.inj h]
    exact exitCode_of_writtenSettings hwritten
  | ok written =>
    rw [settings, hwritten] at h
    have hdecodes := (writtenSettings_eq_ok_iff.1 hwritten).1
    exact Or.inr ⟨hdecodes.not_lacksFile, exitCode_of_checked h⟩

/-! ## What a command comes to -/

theorem result_of_connect (hc : i.Uses s c)
    (h : Session.connect s.network c.database = .error f) :
    (i.executeWith s.network.connector schedule s).result = .error f := by
  rw [executeWith, uses_iff.1 hc]
  simp only [Command.executeWith, Network.connector, h]

theorem result_of_enters (hcommand : i.command = .generate tables outputDir schema dryRun)
    (hc : i.Enters s c session) :
    (i.executeWith s.network.connector schedule s).result =
      (Run.scheduled session.catalog c.generator tables schedule s.files).outcome.map
        .generated := by
  rw [executeWith, uses_iff.1 hc.uses]
  simp only [Command.executeWith, Network.connector, hc.connected, hcommand]

/-- **How far a command gets**: it has no settings, or no session, or it enters. -/
theorem gets_cases (i : Invocation) (s : Surroundings) :
    (∃ f, i.settings s = .error f) ∨
      (∃ c f, i.Uses s c ∧ Session.connect s.network c.database = .error f) ∨
      ∃ c session, i.Enters s c session := by
  cases hsettings : i.settings s with
  | error f => exact Or.inl ⟨f, rfl⟩
  | ok c =>
    have huses := uses_iff.2 hsettings
    cases hconnect : Session.connect s.network c.database with
    | error f => exact Or.inr (Or.inl ⟨c, f, huses, hconnect⟩)
    | ok session => exact Or.inr (Or.inr ⟨c, session, huses, hconnect⟩)

/-- **A command succeeds exactly if it enters and its run does.** -/
theorem result_eq_ok_iff (hcommand : i.command = .generate tables outputDir schema dryRun) :
    (∃ p, (i.executeWith s.network.connector schedule s).result = .ok p) ↔
      ∃ c session outcome, i.Enters s c session ∧
        (Run.scheduled session.catalog c.generator tables schedule s.files).outcome =
          .ok outcome := by
  constructor
  · rintro ⟨p, hp⟩
    rcases gets_cases i s with ⟨f, hsettings⟩ | ⟨c, f, hc, hconnect⟩ | ⟨c, session, hc⟩
    · rw [executeWith_of_error hsettings] at hp
      exact absurd hp (by simp)
    · rw [result_of_connect hc hconnect] at hp
      exact absurd hp (by simp)
    · rw [result_of_enters hcommand hc] at hp
      cases houtcome :
          (Run.scheduled session.catalog c.generator tables schedule s.files).outcome with
      | ok outcome => exact ⟨c, session, outcome, hc, houtcome⟩
      | error f =>
        rw [houtcome] at hp
        exact absurd hp (by simp [Except.map])
  · rintro ⟨c, session, outcome, hc, houtcome⟩
    rw [result_of_enters hcommand hc, houtcome]
    exact ⟨.generated outcome, rfl⟩

theorem exitCode_of_outcome (hcommand : i.command = .generate tables outputDir schema dryRun)
    (hc : i.Enters s c session)
    (h : (Run.scheduled session.catalog c.generator tables schedule s.files).outcome =
      .error f) : (i.executeWith s.network.connector schedule s).exitCode = f.exitCode := by
  rw [Execution.exitCode, result_of_enters hcommand hc, h]
  rfl

/-- A description fails if one of its queries is refused, as a query of the catalog. -/
theorem describe_of_refused {query : TableQuery} {table : String} {fault : DatabaseFault}
    (h : session.ask (.describe query session.schema table) () = .error fault) :
    ∃ f, session.describe table = .error f ∧ f.exitCode = 3 := by
  rcases session.describe_cases table with ⟨other, _, -, hdescribe⟩ | ⟨hanswered, -⟩
  · exact ⟨_, hdescribe, rfl⟩
  · exact absurd ((hanswered query).symm.trans h) (by simp)

/-- **The stage is told**, as far as stages are: a command that ends at a stage has the code that
the stage really has. -/
theorem EndsAt.exitCode {stage : Stage} (h : i.EndsAt tables s schedule stage)
    (hcommand : i.command = .generate tables outputDir schema dryRun) :
    (i.executeWith s.network.connector schedule s).exitCode = stage.toldCode := by
  -- without settings the command ends before it could connect
  have hunused : (∀ c, ¬ i.Uses s c) → ∃ f, i.settings s = .error f ∧
      (i.executeWith s.network.connector schedule s).exitCode = f.exitCode := by
    intro hnone
    cases hsettings : i.settings s with
    | ok c => exact absurd (uses_iff.2 hsettings) (hnone c)
    | error f => exact ⟨f, rfl, by rw [executeWith_of_error hsettings]; rfl⟩
  cases h with
  | reading hfile =>
    have hnone : ∀ c, ¬ i.Uses s c := by
      rintro c ⟨written, hdecodes, -⟩
      exact hdecodes.not_lacksFile hfile
    obtain ⟨f, hsettings, hcode⟩ := hunused hnone
    rcases exitCode_of_settings hsettings with ⟨-, hf⟩ | ⟨hnot, -⟩
    · exact hcode.trans hf
    · exact absurd hfile hnot
  | settings hread hnone =>
    obtain ⟨f, hsettings, hcode⟩ := hunused hnone
    rcases exitCode_of_settings hsettings with ⟨hfile, -⟩ | ⟨-, hf⟩
    · exact absurd hfile hread
    · exact hcode.trans hf
  | connecting hc hconnect =>
    obtain ⟨fault, rfl⟩ := Session.fault_of_connect (valid_of_settings (uses_iff.1 hc)) hconnect
    rw [Execution.exitCode, result_of_connect hc hconnect]
    rfl
  | listing hc hrefused =>
    -- here the code of the stage is lost: the refusal has become one of the connection
    have hlist := Session.list_eq_error_iff.2 ⟨_, hrefused, rfl⟩
    exact exitCode_of_outcome hcommand hc
      (congrArg RunResult.outcome (Run.scheduled_of_list_error hlist))
  | describing hc hturn hjob hrefused =>
    obtain ⟨f, hdescribe, hf⟩ := describe_of_refused hrefused
    have hfails := Run.outcome_of_fails hturn (hjob ▸ Job.Fails.undescribed hdescribe)
    exact (exitCode_of_outcome hcommand hc hfails).trans hf
  | @directory c session set base fault hc hset hwrites hmade =>
    have hprepare : Run.prepare c.generator s.files =
        (base, .error (.fileWrite c.generator.outputDir fault)) := by
      simp only [Run.prepare, hwrites, hmade, Bool.false_eq_true, if_false]
    exact exitCode_of_outcome hcommand hc (Run.scheduled_of_prepare_error hset hprepare).2
  | staging hc hturn hjob hwrite =>
    exact exitCode_of_outcome hcommand hc
      (Run.outcome_of_fails hturn (hjob ▸ Job.Fails.unwritten hwrite))
  | publishing hc hturn hjob hrename =>
    exact exitCode_of_outcome hcommand hc
      (Run.outcome_of_fails hturn (hjob ▸ Job.Fails.unrenamed hrename))

/-- **A command that enters and whose run fails ends at a stage.** -/
theorem exists_endsAt_of_outcome (hc : i.Enters s c session)
    (h : (Run.scheduled session.catalog c.generator tables schedule s.files).outcome =
      .error f) : ∃ stage, i.EndsAt tables s schedule stage := by
  cases Run.failedStep_of_error h with
  | listing hlist =>
    obtain ⟨fault, hrefused, -⟩ := Session.list_eq_error_iff.1 hlist
    exact ⟨_, .listing hc hrefused⟩
  | directory hwrites hmade =>
    -- the directory is made after the listing, so the listing was answered
    rcases session.list_cases tables c.generator.excludedTables with
      ⟨fault, hrefused, -⟩ | ⟨-, hset⟩
    · exact ⟨_, .listing hc hrefused⟩
    · exact ⟨_, .directory hc hset hwrites hmade⟩
  | @turn turn table g hturn htable hjob hfails =>
    obtain ⟨index, job, now⟩ := turn
    cases hfails with
    | undescribed hdescribe =>
      obtain ⟨query, fault, -, hrefused⟩ := (Session.backs_catalog session).refused _ _ hdescribe
      exact ⟨_, .describing hc hturn rfl hrefused⟩
    | unwritten hwrite => exact ⟨_, .staging hc hturn rfl hwrite⟩
    | unrenamed hrename => exact ⟨_, .publishing hc hturn rfl hrename⟩

/-- **A command that fails ends at a stage.** -/
theorem exists_endsAt (hcommand : i.command = .generate tables outputDir schema dryRun)
    (h : (i.executeWith s.network.connector schedule s).result = .error f) :
    ∃ stage, i.EndsAt tables s schedule stage := by
  rcases gets_cases i s with ⟨g, hsettings⟩ | ⟨c, g, hc, hconnect⟩ | ⟨c, session, hc⟩
  · have hnone : ∀ c, ¬ i.Uses s c := by
      intro c hc
      exact absurd (hsettings.symm.trans (uses_iff.1 hc)) (by simp)
    by_cases hfile : i.LacksFile s
    · exact ⟨_, .reading hfile⟩
    · exact ⟨_, .settings hfile hnone⟩
  · exact ⟨_, .connecting hc hconnect⟩
  · cases houtcome :
        (Run.scheduled session.catalog c.generator tables schedule s.files).outcome with
    | error g => exact exists_endsAt_of_outcome hc houtcome
    | ok outcome =>
      rw [result_of_enters hcommand hc, houtcome] at h
      exact absurd h (by simp [Except.map])

theorem exitCode_eq_zero_iff {e : Execution} : e.exitCode = 0 ↔ ∃ p, e.result = .ok p := by
  unfold Execution.exitCode
  cases e.result with
  | ok p => simp
  | error f =>
    have hf : f.exitCode ≠ 0 := by
      cases f <;> simp [Failure.exitCode]
    simp [hf]

/-- **A code other than zero tells a stage**: the command ended at one that has the code. -/
theorem exitCode_eq_iff (hcommand : i.command = .generate tables outputDir schema dryRun)
    {code : UInt8} (hcode : code ≠ 0) :
    (i.executeWith s.network.connector schedule s).exitCode = code ↔
      ∃ stage, i.EndsAt tables s schedule stage ∧ stage.toldCode = code := by
  constructor
  · intro h
    cases hresult : (i.executeWith s.network.connector schedule s).result with
    | ok p =>
      rw [exitCode_eq_zero_iff.2 ⟨p, hresult⟩] at h
      exact absurd h.symm hcode
    | error f =>
      obtain ⟨stage, hends⟩ := exists_endsAt hcommand hresult
      exact ⟨stage, hends, (hends.exitCode hcommand).symm.trans h⟩
  · rintro ⟨stage, hends, rfl⟩
    exact hends.exitCode hcommand

end Invocation

/-! ## All together -/

/-- **What the exit code of a command tells**: each clause is about one code, and says all the ways
to get it. -/
structure TellsStage (i : Invocation) (tables : List String) (s : Surroundings)
    (schedule : Schedule) (code : UInt8) : Prop where
  /-- Zero: the run went well, whatever tables it did not find or skipped. -/
  zero : code = 0 ↔ ∃ c session outcome, i.Enters s c session ∧
    (Run.scheduled session.catalog c.generator tables schedule s.files).outcome = .ok outcome
  one : code = 1 ↔ i.EndsAt tables s schedule .settings
  /-- Two stages share a code. -/
  two : code = 2 ↔ i.EndsAt tables s schedule .connecting ∨ i.EndsAt tables s schedule .listing
  three : code = 3 ↔ i.EndsAt tables s schedule .describing
  four : code = 4 ↔ i.EndsAt tables s schedule .writing
  seven : code = 7 ↔ i.EndsAt tables s schedule .reading
  /-- There are no other codes. -/
  known : code ∈ [0, 1, 2, 3, 4, 7]

section

variable {i : Invocation} {tables : List String} {outputDir schema : Option String} {dryRun : Bool}

/-- A stage that has a code for itself. -/
theorem Invocation.exitCode_eq_toldCode_iff
    (hcommand : i.command = .generate tables outputDir schema dryRun) {s : Surroundings}
    {schedule : Schedule} (stage : Stage) (hzero : stage.toldCode ≠ 0)
    (halone : ∀ other ∈ Stage.all, other.toldCode = stage.toldCode → other = stage) :
    (i.executeWith s.network.connector schedule s).exitCode = stage.toldCode ↔
      i.EndsAt tables s schedule stage := by
  rw [exitCode_eq_iff hcommand hzero]
  constructor
  · rintro ⟨other, hends, hcode⟩
    exact halone other other.mem_all hcode ▸ hends
  · intro hends
    exact ⟨stage, hends, rfl⟩

/-- **The exit code tells the stage**, except that listing is told as connecting. -/
theorem tellsStage (hcommand : i.command = .generate tables outputDir schema dryRun)
    (s : Surroundings) (schedule : Schedule) :
    TellsStage i tables s schedule (i.executeWith s.network.connector schedule s).exitCode where
  zero := by
    rw [Invocation.exitCode_eq_zero_iff]
    exact Invocation.result_eq_ok_iff hcommand
  one := Invocation.exitCode_eq_toldCode_iff hcommand .settings (by decide) (by decide)
  two := by
    rw [Invocation.exitCode_eq_iff hcommand (by decide)]
    constructor
    · rintro ⟨stage, hends, hcode⟩
      cases stage with
      | connecting => exact Or.inl hends
      | listing => exact Or.inr hends
      | reading | settings | describing | writing => exact absurd hcode (by decide)
    · rintro (hends | hends)
      · exact ⟨_, hends, rfl⟩
      · exact ⟨_, hends, rfl⟩
  three := Invocation.exitCode_eq_toldCode_iff hcommand .describing (by decide) (by decide)
  four := Invocation.exitCode_eq_toldCode_iff hcommand .writing (by decide) (by decide)
  seven := Invocation.exitCode_eq_toldCode_iff hcommand .reading (by decide) (by decide)
  known := by
    unfold Execution.exitCode
    cases (i.executeWith s.network.connector schedule s).result with
    | ok p => simp
    | error f => cases f <;> simp [Failure.exitCode]

end

/-! ## A listing that is refused -/

/-- A server that lets clients in and then lists nothing for them. -/
def secretiveServer : DatabaseServer where
  tables := []
  encrypts := false
  turnsAway := none
  fails
    | .listAll .. | .listRequested .. =>
        some (.refused ⟨"42501", "permission denied for view tables", none, none⟩)
    | _ => none

def secretive : Surroundings where
  files := ⟨[], []⟩
  environment := .ofList
    [ (SettingsVariable.host, "127.0.0.1"), (SettingsVariable.database, "shop"),
      (SettingsVariable.user, "reader"), (SettingsVariable.sslMode, "disable") ]
  network := ⟨fun _ => .ok secretiveServer⟩

def secretiveSettings : Settings where
  database := ⟨"127.0.0.1", 5432, "shop", "reader", "", "public", "disable"⟩
  generator := .defaults

def generateAll : Invocation where
  settingsPath := none
  outputJson := false
  logFormat := Invocation.defaultLogFormat
  verbosity := Invocation.defaultVerbosity
  command := .generate [] none none false

theorem enters_secretive :
    generateAll.Enters secretive secretiveSettings ⟨secretiveServer, "public", true⟩ where
  uses := Invocation.uses_iff.2 (by decide +kernel)
  connected := rfl

/-- A command that finds a server which refuses the listing. -/
theorem tellsStage_secretive :
    generateAll.command = .generate [] none none false ∧
      TellsStage generateAll [] secretive [] 2 := by
  have htold := tellsStage (i := generateAll) rfl secretive []
  have hcode : (generateAll.executeWith secretive.network.connector [] secretive).exitCode = 2 := by
    rw [← Invocation.execute_eq_executeWith]
    decide +kernel
  rw [hcode] at htold
  exact ⟨rfl, htold⟩

/-- **A listing that is refused is told as connecting**, although a session was there and the code
for queries of the catalog is another. -/
theorem refused_listing_told_as_connecting :
    generateAll.EndsAt [] secretive [] .listing ∧
      (generateAll.execute secretive).exitCode = 2 ∧ Stage.listing.exitCode = 3 :=
  ⟨.listing enters_secretive rfl, by decide +kernel, rfl⟩

end CommandLine

end CatalogEntities
