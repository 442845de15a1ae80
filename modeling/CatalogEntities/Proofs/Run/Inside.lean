import CatalogEntities.Proofs.Run.DryRun
import CatalogEntities.Proofs.Run.Untorn
import CatalogEntities.Proofs.Text.Casing
import CatalogEntities.Settings.Validity

/-!
# `Proofs/Run/Inside.lean` — what keeps a run inside its output directory

The path of an entity file is the output directory joined with a name that comes from the catalog,
and nothing looks at that name. So a file stays in the directory exactly if its name leads one step
down (`Path.inside_join_iff`), and a table whose name begins with `../` is written beside the
directory, with settings that are valid (`not_inside_keys`).

All other paths of a run are made from that of an entity file: the temporary file stands beside it,
and reports, failures and events repeat the one or the other. So where the entity files stay inside,
everything does, at every moment of a run.

Unlike elsewhere nothing is asked of names or suffixes here, and the places of two tables may
coincide. So the invariant is a bound on what has changed (`Bounded`) and not a description of what
stands where.
-/

set_option autoImplicit false

namespace CatalogEntities

open CatalogEntities.Path (Inside IsName LeadsDown)

/-- The paths at which a job writes: that of its file, and that of the temporary file. -/
def Job.paths (settings : GeneratorSettings) (file : EntityFile) : List String :=
  [path settings file, temporaryPath (path settings file)]

/-- The path of a file that an event is about. -/
def RunEvent.path? : RunEvent → Option String
  | wouldCreate path | created path | leftBehind path _ => some path
  | _ => none

theorem Job.inside_temporaryPath {directory path : String} (h : Inside directory path) :
    Inside directory (temporaryPath path) := by
  obtain ⟨name, hname, hlast⟩ := h.fileName?
  rw [temporaryPath, hlast]
  exact h.withFileName (Run.isName_temporaryName hname.noSlash)

theorem FileSystem.locate_of_inside (fs : FileSystem) {directory path : String}
    (h : Inside directory path) :
    ∃ name, IsName name ∧ fs.locate path = fs.locate directory ++ [name] := by
  obtain ⟨hstart, name, hname, hsteps⟩ := h
  refine ⟨name, hname, ?_⟩
  rw [locate, locate, start, start, hstart, hsteps,
    Location.follow_append_singleton _ _ hname.notUp]

/-! ## Names that lead down -/

/-- **A table name without slashes leads down**, whatever else it holds, unless the suffix has a
slash or nothing but dots. -/
theorem Naming.leadsDown_fileName {table suffix : String} (htable : '/' ∉ table.toList)
    (hsuffix : '/' ∉ suffix.toList) (hdots : ∃ c ∈ suffix.toList, c ≠ '.') :
    LeadsDown (fileName table suffix) := by
  obtain ⟨c, hc, hdot⟩ := hdots
  have hmem : c ∈ (fileName table suffix).toList := by
    rw [fileName, String.toList_append]
    exact List.mem_append_right _ hc
  refine IsName.leadsDown ⟨?_, ?_, ?_⟩
  · rw [fileName, String.toList_append, List.mem_append]
    rintro (hclass | h)
    · exact htable (mem_of_mem_className (by decide) hclass)
    · exact hsuffix h
  · -- an idle name is empty or a dot
    rw [Path.isIdle, Bool.or_eq_false_iff]
    constructor
    · refine decide_eq_false fun h => ?_
      rw [h] at hmem
      exact absurd hmem List.not_mem_nil
    · refine decide_eq_false fun h => ?_
      rw [h] at hmem
      exact hdot (List.mem_singleton.1 hmem)
  · intro h
    rw [h] at hmem
    simp [hdot] at hmem

/-! ## What a job changes and tells -/

namespace Job

variable {catalog : Catalog} {settings : GeneratorSettings} {job next : Job}
  {fs after : FileSystem}

/-- Files that a job has to write. -/
def Holds (job : Job) (file : EntityFile) : Prop := job = .rendered file ∨ job = .staged file

/-- **What is elsewhere than at the paths of a job is left alone** by what happens to the job. A job
that has nothing to write changes nothing. -/
structure ChangesAt (settings : GeneratorSettings) (job : Job) (before after : FileSystem) :
    Prop where
  working : after.working = before.working
  elsewhere : ∀ loc, (∀ file, job.Holds file → ∀ path ∈ paths settings file,
    loc ≠ before.locate path) → after.node? loc = before.node? loc

theorem changesAt_of_advances (h : job.Advances catalog settings fs next after) :
    job.ChangesAt settings fs after := by
  cases h with
  | described => exact ⟨rfl, fun _ _ => rfl⟩
  | foreseen => exact ⟨rfl, fun _ _ => rfl⟩
  | written h =>
    refine ⟨(FileSystem.sameDirectories_of_writeFile h).forth.working, fun loc hloc => ?_⟩
    rw [FileSystem.node?_of_writeFile h, if_neg (hloc _ (Or.inl rfl) _ (by simp [paths]))]
  | renamed h =>
    refine ⟨(FileSystem.sameDirectories_of_renameFile h).forth.working, fun loc hloc => ?_⟩
    obtain ⟨bytes, -, hnode⟩ := FileSystem.node?_of_renameFile h
    rw [hnode, if_neg (hloc _ (Or.inr rfl) _ (by simp [paths])),
      if_neg (hloc _ (Or.inr rfl) _ (by simp [paths]))]
  | rested => exact ⟨rfl, fun _ _ => rfl⟩

theorem changesAt_of_setBack (h : job.SetBack settings fs after) :
    job.ChangesAt settings fs after := by
  cases h with
  | torn n h =>
    refine ⟨(FileSystem.sameDirectories_of_writeFile h).forth.working, fun loc hloc => ?_⟩
    rw [FileSystem.node?_of_writeFile h, if_neg (hloc _ (Or.inl rfl) _ (by simp [paths]))]
  | withdrawn h =>
    refine ⟨(FileSystem.sameDirectories_of_removeFile h).forth.working, fun loc hloc => ?_⟩
    rw [FileSystem.node?_of_removeFile h, if_neg (hloc _ (Or.inr rfl) _ (by simp [paths]))]

/-- What the first step tells: the table, what the session has to say, and the path in a dry run. -/
theorem mem_events_render {table : String} {t : Table} (hdescribe : catalog.describe table = .ok t)
    {event : RunEvent} (h : event ∈ (render catalog settings table fs).events) :
    event = .processing table ∨ (∃ line, event = .noted line) ∨
      event = .wouldCreate (Job.path settings (EntityFile.ofTable settings t)) := by
  unfold render at h
  rw [hdescribe] at h
  dsimp only at h
  split at h
  · simp only [List.cons_append, List.mem_cons, List.mem_append, List.mem_map, List.not_mem_nil,
      or_false] at h
    rcases h with h | ⟨line, -, h⟩ | h
    · exact Or.inl h
    · exact Or.inr (Or.inl ⟨line, h.symm⟩)
    · exact Or.inr (Or.inr h)
  · simp only [List.mem_cons, List.mem_map] at h
    rcases h with h | ⟨line, -, h⟩
    · exact Or.inl h
    · exact Or.inr (Or.inl ⟨line, h.symm⟩)

/-- **The paths that a job tells of** are those of the entity file of its table. -/
theorem exists_of_mem_events {table : String} (hjob : job.IsFor catalog settings table)
    {event : RunEvent} (h : event ∈ (job.step catalog settings fs).events) {path : String}
    (hpath : event.path? = some path) :
    ∃ file, Run.Renders catalog settings table file ∧ path ∈ paths settings file := by
  -- by stages: describing tells of the path in a dry run only, renaming tells whether it was done
  cases job with
  | waiting asked =>
    have hasked : asked = table := hjob
    rw [step, hasked] at h
    cases hdescribe : catalog.describe table with
    | error f =>
      rw [render_of_error hdescribe] at h
      rw [List.mem_singleton.1 h] at hpath
      exact absurd hpath (by simp [RunEvent.path?])
    | ok t =>
      refine ⟨_, ⟨t, hdescribe, rfl⟩, ?_⟩
      rcases mem_events_render hdescribe h with rfl | ⟨line, rfl⟩ | rfl
      · exact absurd hpath (by simp [RunEvent.path?])
      · exact absurd hpath (by simp [RunEvent.path?])
      · rw [← Option.some.inj hpath]
        exact List.mem_cons_self
  | rendered file =>
    rw [step] at h
    unfold stage at h
    dsimp only at h
    split at h <;> exact absurd h List.not_mem_nil
  | staged file =>
    refine ⟨file, hjob, ?_⟩
    rw [step] at h
    unfold publish at h
    dsimp only at h
    split at h
    · rw [List.mem_singleton.1 h] at hpath
      rw [← Option.some.inj hpath]
      exact List.mem_cons_self
    · split at h
      · exact absurd h List.not_mem_nil
      · rw [List.mem_singleton.1 h] at hpath
        rw [← Option.some.inj hpath]
        exact List.mem_cons_of_mem _ List.mem_cons_self
  | finished done => exact absurd h List.not_mem_nil

end Job

namespace Run

variable {catalog : Catalog} {settings : GeneratorSettings} {requested : List String}
  {schedule : Schedule} {fs base : FileSystem} {m n : Moment}

/-! ## Every moment -/

/-- The entity files of a request stay inside the output directory. -/
def StaysInside (catalog : Catalog) (settings : GeneratorSettings) (requested : List String) :
    Prop :=
  ∀ table ∈ tables catalog settings requested, ∀ file, Renders catalog settings table file →
    Inside settings.outputDir (Job.path settings file)

theorem StaysInside.paths (h : StaysInside catalog settings requested) {table : String}
    (htable : table ∈ tables catalog settings requested) {file : EntityFile}
    (hfile : Renders catalog settings table file) {path : String}
    (hpath : path ∈ Job.paths settings file) : Inside settings.outputDir path := by
  have hinside := h table htable file hfile
  rcases List.mem_cons.1 hpath with rfl | hpath
  · exact hinside
  · rw [List.mem_singleton.1 hpath]
    exact Job.inside_temporaryPath hinside

/-- A place that is not in the output directory. -/
def IsOutside (settings : GeneratorSettings) (fs : FileSystem) (loc : Location) : Prop :=
  ∀ name, IsName name → loc ≠ fs.locate settings.outputDir ++ [name]

/-- **Nothing has happened outside of the output directory** since `base`. That jobs are on tables
of the run is part of it, or nothing would be known of what they write next. -/
structure Bounded (catalog : Catalog) (settings : GeneratorSettings) (requested : List String)
    (base : FileSystem) (m : Moment) : Prop where
  working : m.files.working = base.working
  jobs : ∀ job ∈ m.jobs, ∃ table ∈ tables catalog settings requested,
    job.IsFor catalog settings table
  elsewhere : ∀ loc, IsOutside settings base loc → m.files.node? loc = base.node? loc

theorem Bounded.elsewhere_of_changesAt (h : StaysInside catalog settings requested)
    (hm : Bounded catalog settings requested base m) {job : Job} (hjob : job ∈ m.jobs)
    {after : FileSystem} (hchanges : job.ChangesAt settings m.files after) :
    after.working = base.working ∧
      ∀ loc, IsOutside settings base loc → after.node? loc = base.node? loc := by
  obtain ⟨table, htable, hfor⟩ := hm.jobs job hjob
  refine ⟨hchanges.working.trans hm.working, fun loc hloc => ?_⟩
  rw [hchanges.elsewhere loc, hm.elsewhere loc hloc]
  -- the places at which the job writes are all inside
  intro file hholds path hpath
  have hfile : Renders catalog settings table file := by
    rcases hholds with rfl | rfl
    · exact hfor
    · exact hfor
  obtain ⟨name, hname, hlocate⟩ :=
    m.files.locate_of_inside (h.paths htable hfile hpath)
  rw [hlocate, FileSystem.locate_congr hm.working]
  exact hloc name hname

/-- **A move keeps to the bound**: the job that moves writes at its own paths. -/
theorem Bounded.of_move (h : StaysInside catalog settings requested)
    (hm : Bounded catalog settings requested base m) (hmove : Move catalog settings m n) :
    Bounded catalog settings requested base n := by
  cases hmove with
  | @advance i job next after hjob hadvance =>
    have hmem := List.mem_of_getElem? hjob
    obtain ⟨hworking, helsewhere⟩ :=
      hm.elsewhere_of_changesAt h hmem (Job.changesAt_of_advances hadvance)
    refine ⟨hworking, fun other hother => ?_, helsewhere⟩
    rcases List.mem_or_eq_of_mem_set hother with hother | rfl
    · exact hm.jobs other hother
    · obtain ⟨table, htable, hfor⟩ := hm.jobs job hmem
      exact ⟨table, htable, Job.isFor_of_advances hadvance hfor⟩
  | setBack hjob hback =>
    obtain ⟨hworking, helsewhere⟩ :=
      hm.elsewhere_of_changesAt h (List.mem_of_getElem? hjob) (Job.changesAt_of_setBack hback)
    exact ⟨hworking, hm.jobs, helsewhere⟩

theorem Bounded.of_moves (h : StaysInside catalog settings requested)
    (hmoves : Relation.ReflTransGen (Move catalog settings)
      (.initial base (tables catalog settings requested)) m) :
    Bounded catalog settings requested base m := by
  induction hmoves with
  | refl =>
    refine ⟨rfl, fun job hjob => ?_, fun _ _ => rfl⟩
    obtain ⟨table, htable, rfl⟩ := List.mem_map.1 hjob
    exact ⟨table, htable, rfl⟩
  | tail _ hmove ih => exact ih.of_move h hmove

/-- **At no moment has anything happened outside**, except that the output directory may have been
made with the directories above it. -/
theorem kept_of_reaches (h : StaysInside catalog settings requested)
    (hm : Reaches catalog settings requested fs m) {loc : Location}
    (hloc : IsOutside settings fs loc) : Kept settings fs m.files loc := by
  obtain ⟨base, hmaking, hmoves⟩ := hm
  have hbuilt := FileSystem.built_of_reflTransGen hmaking
  refine .of_built hbuilt ((Bounded.of_moves h hmoves).elsewhere loc fun name hname => ?_)
  rw [FileSystem.locate_congr hbuilt.working]
  exact hloc name hname

/-! ## What a run tells -/

/-- What is told before the jobs begin is about tables and not about files. -/
theorem path?_of_mem_preamble {set : TableSet} {claims : List Claim} {event : RunEvent}
    (h : event ∈ preamble settings set claims) : event.path? = none := by
  unfold preamble at h
  rcases List.mem_append.1 h with h | h
  · rcases List.mem_append.1 h with h | h
    · split at h
      · exact absurd h List.not_mem_nil
      · rw [List.mem_singleton.1 h]
        rfl
    · rw [List.mem_singleton.1 h]
      rfl
  · obtain ⟨claim, -, hclaim⟩ := List.mem_filterMap.1 h
    cases claim with
    | granted table => exact absurd hclaim (by simp)
    | refused table owner =>
      rw [← Option.some.inj hclaim]
      rfl

/-- **A path that a run tells of** is told of at one of its turns. -/
theorem exists_turn_of_mem_events {event : RunEvent} {path : String}
    (h : event ∈ (scheduled catalog settings requested schedule fs).events)
    (hpath : event.path? = some path) :
    ∃ turn ∈ turns catalog settings requested schedule fs,
      event ∈ (turn.job.step catalog settings turn.files).events := by
  have hsilent : event.path? ≠ none := by simp [hpath]
  rcases mem_events_scheduled h with rfl | rfl | ⟨_, _, hmem⟩ | ⟨_, rfl⟩ | hturn
  · exact absurd rfl hsilent
  · exact absurd rfl hsilent
  · exact absurd (path?_of_mem_preamble hmem) hsilent
  · exact absurd rfl hsilent
  · exact hturn

/-! ## A run -/

/-- **A run that stays inside its output directory.** -/
structure Confined (catalog : Catalog) (settings : GeneratorSettings) (requested : List String)
    (schedule : Schedule) (fs : FileSystem) : Prop where
  /-- It writes, renames and removes files inside. -/
  writes : ∀ turn ∈ turns catalog settings requested schedule fs, ∀ file, turn.job.Holds file →
    ∀ path ∈ Job.paths settings file, Inside settings.outputDir path
  /-- It reports files inside. -/
  reports : ∀ o, (scheduled catalog settings requested schedule fs).outcome = .ok o →
    ∀ entry ∈ o.files, Inside settings.outputDir entry.path
  /-- It logs no path outside. -/
  tells : ∀ event ∈ (scheduled catalog settings requested schedule fs).events, ∀ path,
    event.path? = some path → Inside settings.outputDir path
  /-- A failure to write is about the directory or inside it, unless it is the catalog's own. -/
  fails : ∀ path fault,
    (scheduled catalog settings requested schedule fs).outcome = .error (.fileWrite path fault) →
      path = settings.outputDir ∨ Inside settings.outputDir path ∨
        catalog.list requested settings.excludedTables = .error (.fileWrite path fault) ∨
        ∃ table, catalog.describe table = .error (.fileWrite path fault)
  /-- Whenever it is cut off, nothing outside has changed, but that directories on the way to the
  output directory may have been made. -/
  moments : ∀ m, Reaches catalog settings requested fs m → ∀ loc, IsOutside settings fs loc →
    Kept settings fs m.files loc
  /-- The same holds of what the program leaves behind, in dry runs too. -/
  leaves : ∀ loc, IsOutside settings fs loc →
    Kept settings fs (scheduled catalog settings requested schedule fs).files loc

/-- **Where the entity files stay inside, everything does.** -/
theorem StaysInside.confined (h : StaysInside catalog settings requested) (schedule : Schedule)
    (fs : FileSystem) : Confined catalog settings requested schedule fs where
  writes turn hturn file hholds path hpath := by
    obtain ⟨table, htable, hjob⟩ := isFor_of_mem_turns hturn
    have hfile : Renders catalog settings table file := by
      rcases hholds with heq | heq
      · rw [heq] at hjob
        exact hjob
      · rw [heq] at hjob
        exact hjob
    exact h.paths (List.mem_of_getElem? htable) hfile hpath
  reports o hrun entry hentry := by
    obtain ⟨set, files, -, hfiles, rfl⟩ := reported_of_ok hrun
    obtain ⟨file, hfile, rfl⟩ := List.mem_map.1 hentry
    obtain ⟨table, htable, hrenders⟩ := exists_left_of_mem hfiles hfile
    exact h table htable file hrenders
  tells event hevent path hpath := by
    obtain ⟨turn, hturn, hmem⟩ := exists_turn_of_mem_events hevent hpath
    obtain ⟨table, htable, hjob⟩ := isFor_of_mem_turns hturn
    obtain ⟨file, hfile, hmem⟩ := Job.exists_of_mem_events hjob hmem hpath
    exact h.paths (List.mem_of_getElem? htable) hfile hmem
  fails path fault hrun := by
    cases failedStep_of_error hrun with
    | listing hlist => exact Or.inr (Or.inr (Or.inl hlist))
    | directory => exact Or.inl rfl
    | @turn turn table _ hturn htable hjob hfails =>
      have hmem := List.mem_of_getElem? htable
      obtain ⟨i, job, now⟩ := turn
      cases hfails with
      | undescribed hdescribe => exact Or.inr (Or.inr (Or.inr ⟨_, hdescribe⟩))
      | unwritten => exact Or.inr (Or.inl (h table hmem _ hjob))
      | unrenamed => exact Or.inr (Or.inl (h table hmem _ hjob))
  moments m hm loc hloc := kept_of_reaches h hm hloc
  leaves loc hloc := by
    cases hdry : settings.dryRun with
    | true =>
      rw [files_scheduled_of_dry hdry]
      exact Or.inl rfl
    | false =>
      obtain ⟨jobs, hreaches⟩ := reaches_scheduled catalog hdry requested schedule fs
      exact kept_of_reaches h hreaches hloc

/-- **What keeps the runs of a request inside.** -/
structure ConfinedByNames (catalog : Catalog) (settings : GeneratorSettings)
    (requested : List String) : Prop where
  /-- An entity file stays inside exactly if its name leads one step down, or is absolute and leads
  into the very directory. -/
  path : ∀ table file, Renders catalog settings table file →
    (Inside settings.outputDir (Job.path settings file) ↔
      LeadsDown file.name ∨
        (Path.isAbsolute file.name = true ∧ Inside settings.outputDir file.name))
  /-- It is enough that there are no slashes, and that the suffix is not made of dots. -/
  plain : '/' ∉ settings.fileSuffix.toList → (∃ c ∈ settings.fileSuffix.toList, c ≠ '.') →
    (∀ table ∈ tables catalog settings requested, ∀ t, catalog.describe table = .ok t →
      '/' ∉ t.name.toList) → StaysInside catalog settings requested
  /-- Where the entity files stay inside, so does all that a run does and tells. -/
  confined : StaysInside catalog settings requested → ∀ schedule fs,
    Confined catalog settings requested schedule fs

/-- **A run is confined by the names of its files**, and by nothing else. -/
theorem confinedByNames (catalog : Catalog) (settings : GeneratorSettings)
    (requested : List String) : ConfinedByNames catalog settings requested where
  path _ _ _ := Path.inside_join_iff
  plain hsuffix hdots hslash table htable file hfile := by
    obtain ⟨t, hdescribe, rfl⟩ := hfile
    have hname := Naming.leadsDown_fileName (hslash table htable t hdescribe) hsuffix hdots
    exact Path.inside_join_iff.2 (Or.inl hname)
  confined h := h.confined

/-! ## A name that leads elsewhere -/

/-- A table whose name begins with the way to the directory above. -/
def keys : MemoryCatalog := .ofTables [⟨"../keys", [], [], [], .empty⟩]

/-- Settings for it that the program accepts. -/
def keysSettings : Settings where
  database := ⟨"localhost", 5432, "shop", "shop", "", "public", "disable"⟩
  generator := settingsFor "out"

def keysOutcome : Outcome where
  dryRun := false
  files := [⟨"../keys", "out/../keys.entity.ts", 235⟩]
  missing := []
  colliding := []

/-- **A run that leaves its output directory**: the settings are valid, the run goes well, and the
file that it reports is beside the directory. -/
theorem not_inside_keys :
    let run := scheduled keys.catalog keysSettings.generator [] [] (.scratch "work")
    keysSettings.Valid ∧ run.outcome = .ok keysOutcome ∧
      ¬ Inside keysSettings.generator.outputDir "out/../keys.entity.ts" ∧
      run.files.node? ["work", "keys.entity.ts"] ≠
        (FileSystem.scratch "work").node? ["work", "keys.entity.ts"] := by
  refine ⟨Settings.check_eq_ok_iff.1 (by decide), by decide +kernel, ?_, by decide +kernel⟩
  rintro ⟨-, name, -, hsteps⟩
  have hlength : (Path.steps "out/../keys.entity.ts").length = (Path.steps "out").length + 1 := by
    rw [hsteps, List.length_append]
    rfl
  exact absurd hlength (by decide)

end Run

end CatalogEntities
