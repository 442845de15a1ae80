import CatalogEntities.Proofs.Run.Success

/-!
# `Proofs/Run/Published.lean` — the one result of a run that goes well

Which files a run leaves behind when it goes well does not depend on the order of its steps, nor on
what its files held before: `Published` describes every location afterwards, and mentions neither.

Two runs that go well agree as soon as they begin with file systems that agree apart from the files
of the run and the directories on the way to them (`Completes.agree`). The orders of one run and a
second run after a first are cases of that, once it is known that these runs go well too.

That other orders go well when one does is the less obvious half. A run that went well has shown
that all its places can be written to, and whether a place can be written to is a matter of the
directories around it, which no job makes or removes. So the conditions of `exists_ok` can be read
off one run and used for any other.
-/

set_option autoImplicit false

namespace CatalogEntities.Run

open FileSystem (Built)

/-- **What a run that goes well leaves behind**, in terms of what was there before. Every location
falls under one of the clauses, so that this determines the files afterwards; the schedule does not
occur in it. -/
structure Published (settings : GeneratorSettings) (before after : FileSystem)
    (files : List EntityFile) : Prop where
  /-- Paths mean the same as before. -/
  working : after.working = before.working
  /-- Every entity file is complete. It is found where its path leads, and read by that path. -/
  entities : ∀ file ∈ files,
    after.node? (before.locate (Job.path settings file)) = some (complete file) ∧
      after.readFile (Job.path settings file) = .ok file.contents.toByteArray
  /-- No temporary file is left. -/
  temporaries : ∀ file ∈ files, after.node? (before.locate
    (Path.join settings.outputDir (Job.temporaryName file.name))) = none
  /-- The output directory exists; the empty path is the working directory. -/
  directory : settings.outputDir = "" ∨ after.isDirectory settings.outputDir = true
  /-- Directories were made where nothing was. -/
  waypoints : ∀ loc ∈ before.waypoints settings.outputDir,
    (before.node? loc = none ∨ before.node? loc = some .directory) ∧
      after.node? loc = some .directory
  /-- Nothing else has changed. -/
  elsewhere : ∀ loc, loc ∉ before.waypoints settings.outputDir →
    (∀ file ∈ files, loc ≠ before.locate (Job.path settings file) ∧
      loc ≠ before.locate (Path.join settings.outputDir (Job.temporaryName file.name))) →
    after.node? loc = before.node? loc

variable {catalog : Catalog} {settings : GeneratorSettings} {requested : List String}

/-! ## Making the output directory -/

/-- A run that gets past its preparation has made directories only, and the output directory is one
of them. -/
theorem built_of_prepare (hwrites : settings.dryRun = false) {fs base : FileSystem}
    (h : prepare settings fs = (base, .ok ())) :
    Built settings.outputDir fs base ∧
      (settings.outputDir = "" ∨ base.isDirectory settings.outputDir = true) := by
  have hmaking := making_prepare hwrites fs
  rw [h] at hmaking
  refine ⟨FileSystem.built_of_reflTransGen hmaking, ?_⟩
  rw [prepare, hwrites] at h
  simp only [Bool.false_eq_true, if_false] at h
  split at h
  · rename_i made hmade
    rw [← (Prod.mk.inj h).1]
    by_cases hdir : settings.outputDir = ""
    · exact Or.inl hdir
    · exact Or.inr (FileSystem.isDirectory_of_makeDirectoriesWithin hdir hmade)
  · exact absurd (Prod.mk.inj h).2 (by simp)

/-- An output directory that exists is left as it is. -/
theorem prepare_of_directory (hwrites : settings.dryRun = false) {fs : FileSystem}
    (h : settings.outputDir = "" ∨ fs.isDirectory settings.outputDir = true) :
    prepare settings fs = (fs, .ok ()) := by
  have hmade : fs.makeDirectories settings.outputDir = (fs, .ok ()) := by
    rcases h with hempty | hdir
    · rw [hempty, FileSystem.makeDirectories, FileSystem.makeDirectoriesWithin, if_pos rfl]
    · exact FileSystem.makeDirectories_of_isDirectory hdir
  rw [prepare, hwrites, hmade]
  rfl

/-! ## A run that goes well -/

/-- **What a run that goes well has done**, by way of the file system `base` in which its jobs
began. It is the form in which two runs can be compared: what is between `before` and `base` is the
making of directories, what is between `base` and `after` the work of the jobs. -/
structure Completes (catalog : Catalog) (settings : GeneratorSettings) (requested : List String)
    (before base after : FileSystem) (files : List EntityFile) : Prop where
  built : Built settings.outputDir before base
  directory : settings.outputDir = "" ∨ base.isDirectory settings.outputDir = true
  /-- The jobs make no directory and remove none. -/
  directories : base.SameDirectories after
  /-- For each table of the run, in order, the file that was made for it. -/
  made : List.Forall₂ (Made catalog settings base after) (tables catalog settings requested) files
  elsewhere : ∀ loc, (∀ table ∈ tables catalog settings requested,
      loc ≠ target settings base table ∧ loc ≠ temporary settings base table) →
    after.node? loc = base.node? loc

/-- What is reported of entity files that were made. -/
def report (settings : GeneratorSettings) (set : TableSet) (files : List EntityFile) : Outcome :=
  ⟨settings.dryRun, files.map (Job.summary settings), set.missing,
    (Claim.decide settings.fileSuffix set.found).filterMap Claim.refused?⟩

theorem outcome_of_finished (set : TableSet) (files : List EntityFile) :
    outcome settings set (Claim.decide settings.fileSuffix set.found)
      (files.map fun file => .finished (Job.summary settings file)) =
      report settings set files := by
  have hresults : (files.map fun file => Job.finished (Job.summary settings file)).filterMap
      Job.result? = files.map (Job.summary settings) := by
    rw [List.filterMap_map]
    exact congrFun List.filterMap_eq_map files
  rw [outcome, hresults, report]

/-- **What a run that goes well reports**: an entity file for each table, in their order. This asks
nothing of the settings. -/
theorem reported_of_ok {schedule : Schedule} {fs : FileSystem} {o : Outcome}
    (hrun : (scheduled catalog settings requested schedule fs).outcome = .ok o) :
    ∃ set files, catalog.list requested settings.excludedTables = .ok set ∧
      List.Forall₂ (Renders catalog settings) (tables catalog settings requested) files ∧
      o = report settings set files := by
  obtain ⟨set, base, p, hset, -, hcarried, -, rfl⟩ := scheduled_eq_ok hrun
  have hjobs := jobs_begun hset base
  have hlength : p.jobs.length = (tables catalog settings requested).length := by
    rw [length_of_follow hcarried, hjobs, List.length_map]
  obtain ⟨files, hfiles, hfinished⟩ := exists_forall₂_of_getElem? hlength
    fun _ _ _ htable hjob => finished_of_follow hjobs hcarried htable hjob
  refine ⟨set, files, hset, hfiles, ?_⟩
  rw [hfinished, outcome_of_finished]

theorem completes_of_carriedOut (h : Separate catalog settings requested) {set : TableSet}
    {schedule : Schedule} {before base : FileSystem} {p : Progress}
    (hset : catalog.list requested settings.excludedTables = .ok set)
    (hbase : prepare settings before = (base, .ok ()))
    (hcarried : carriedOut catalog settings set schedule base = (p, .ok ())) :
    ∃ files, Completes catalog settings requested before base p.files files ∧
      outcome settings set (Claim.decide settings.fileSuffix set.found) p.jobs =
        report settings set files := by
  obtain ⟨hbuilt, hdirectory⟩ := built_of_prepare h.writes hbase
  obtain ⟨hholds, files, hmade, hfinished⟩ :=
    made_of_follow h rfl (jobs_begun hset base) hcarried
  refine ⟨files, ⟨hbuilt, hdirectory, hholds.directories, hmade, hholds.elsewhere⟩, ?_⟩
  rw [hfinished, outcome_of_finished]

theorem completes_of_ok (h : Separate catalog settings requested) {schedule : Schedule}
    {before : FileSystem} {o : Outcome}
    (hrun : (scheduled catalog settings requested schedule before).outcome = .ok o) :
    ∃ set base files, catalog.list requested settings.excludedTables = .ok set ∧
      prepare settings before = (base, .ok ()) ∧
      Completes catalog settings requested before base
        (scheduled catalog settings requested schedule before).files files ∧
      o = report settings set files := by
  obtain ⟨set, base, p, hset, hbase, hcarried, hfiles, rfl⟩ := scheduled_eq_ok hrun
  obtain ⟨files, hcompletes, hreport⟩ := completes_of_carriedOut h hset hbase hcarried
  rw [hfiles]
  exact ⟨set, base, files, hset, hbase, hcompletes, hreport⟩

namespace Completes

variable {before base after : FileSystem} {files : List EntityFile}

theorem renders (hc : Completes catalog settings requested before base after files) :
    List.Forall₂ (Renders catalog settings) (tables catalog settings requested) files :=
  hc.made.imp fun _ _ hmade => hmade.ready.renders

/-- The directories on the way to the output directory are there when the jobs begin. -/
theorem directory_of_mem_waypoints
    (hc : Completes catalog settings requested before base after files) {loc : Location}
    (hloc : loc ∈ before.waypoints settings.outputDir) : base.node? loc = some .directory := by
  rw [← FileSystem.waypoints_congr hc.built.working] at hloc
  rcases hc.directory with hempty | hdir
  · rw [hempty] at hloc
    exact absurd hloc List.not_mem_nil
  · exact FileSystem.directory_of_isDirectory hdir hloc

/-- Away from the way to the output directory nothing was made. -/
theorem base_eq (hc : Completes catalog settings requested before base after files)
    {loc : Location} (hloc : loc ∉ before.waypoints settings.outputDir) :
    base.node? loc = before.node? loc := by
  rcases hc.built.node? loc with hsame | ⟨hmem, -, -⟩
  · exact hsame
  · exact absurd hmem hloc

/-- The places of a file that was made, named by its path. -/
theorem locate_of_mem (h : Separate catalog settings requested)
    (hc : Completes catalog settings requested before base after files) {table : String}
    {file : EntityFile} (hfile : Renders catalog settings table file) :
    before.locate (Job.path settings file) = target settings base table ∧
      before.locate (Path.join settings.outputDir (Job.temporaryName file.name)) =
        temporary settings base table := by
  rw [h.locate_path hfile, h.name_eq hfile, target_congr hc.built.working,
    temporary_congr hc.built.working]
  exact ⟨rfl, rfl⟩

/-- **What a run that goes well leaves behind** is told by its files. -/
theorem published (h : Separate catalog settings requested)
    (hc : Completes catalog settings requested before base after files) :
    Published settings before after files where
  working := hc.directories.forth.working.trans hc.built.working
  entities file hfile := by
    obtain ⟨table, -, hmade⟩ := exists_left_of_mem hc.made hfile
    have hlocate := (hc.locate_of_mem h hmade.ready.renders).1
    have hnode := hmade.target
    rw [← hlocate] at hnode
    refine ⟨hnode, FileSystem.readFile_eq_ok (hmade.ready.target.congr hc.directories) ?_⟩
    rw [FileSystem.locate_congr (hc.directories.forth.working.trans hc.built.working)]
    exact hnode
  temporaries file hfile := by
    obtain ⟨table, -, hmade⟩ := exists_left_of_mem hc.made hfile
    rw [(hc.locate_of_mem h hmade.ready.renders).2]
    exact hmade.temporary
  directory := hc.directory.imp id hc.directories.forth.isDirectory
  waypoints loc hloc := by
    have hdir := hc.directory_of_mem_waypoints hloc
    refine ⟨?_, hc.directories.forth.directory loc hdir⟩
    rcases hc.built.node? loc with hsame | ⟨-, hnone, -⟩
    · exact Or.inr (hsame.symm.trans hdir)
    · exact Or.inl hnone
  elsewhere loc hway hplaces := by
    rw [← hc.base_eq hway]
    refine hc.elsewhere loc fun table htable => ?_
    obtain ⟨file, hfile, hmade⟩ := exists_right_of_mem hc.made htable
    have hlocate := hc.locate_of_mem h hmade.ready.renders
    rw [← hlocate.1, ← hlocate.2]
    exact hplaces file hfile

/-- **Two runs that go well agree** if they begin with file systems that agree apart from the files
of the run and the way to the output directory. -/
theorem agree {before' base' after' : FileSystem} {files' : List EntityFile}
    (hc : Completes catalog settings requested before base after files)
    (hc' : Completes catalog settings requested before' base' after' files')
    (hworking : before'.working = before.working)
    (hbefore : ∀ loc, loc ∉ before.waypoints settings.outputDir →
      (∀ table ∈ tables catalog settings requested,
        loc ≠ target settings before table ∧ loc ≠ temporary settings before table) →
      before'.node? loc = before.node? loc) :
    files' = files ∧ ∀ loc, after'.node? loc = after.node? loc := by
  -- a table has one rendering, so the lists of files are the same without a look at the files
  refine ⟨rightUnique_renders.forall₂ hc'.renders hc.renders, fun loc => ?_⟩
  have htarget : ∀ table, target settings base' table = target settings base table :=
    target_congr (hc'.built.working.trans (hworking.trans hc.built.working.symm))
  have htemporary : ∀ table, temporary settings base' table = temporary settings base table :=
    temporary_congr (hc'.built.working.trans (hworking.trans hc.built.working.symm))
  by_cases hplace : ∃ table ∈ tables catalog settings requested,
      loc = target settings base table ∨ loc = temporary settings base table
  · -- a file of the run: both runs made it
    obtain ⟨table, htable, hloc⟩ := hplace
    obtain ⟨file, -, hmade⟩ := exists_right_of_mem hc.made htable
    obtain ⟨file', -, hmade'⟩ := exists_right_of_mem hc'.made htable
    have hsame := hmade.ready.renders.unique hmade'.ready.renders
    have hnodes := And.intro hmade'.target hmade'.temporary
    rw [htarget, htemporary, ← hsame] at hnodes
    rcases hloc with hloc | hloc
    · rw [hloc, hnodes.1, hmade.target]
    · rw [hloc, hnodes.2, hmade.temporary]
  · -- no file of the run: neither run has touched it once the directories were made
    have hoff : ∀ table ∈ tables catalog settings requested,
        loc ≠ target settings base table ∧ loc ≠ temporary settings base table := by
      intro table htable
      exact ⟨fun heq => hplace ⟨table, htable, Or.inl heq⟩,
        fun heq => hplace ⟨table, htable, Or.inr heq⟩⟩
    have hafter := hc.elsewhere loc hoff
    have hafter' := hc'.elsewhere loc fun table htable => by
      rw [htarget, htemporary]
      exact hoff table htable
    rw [hafter, hafter']
    by_cases hway : loc ∈ before.waypoints settings.outputDir
    · -- the way to the output directory is directories in both
      have hway' : loc ∈ before'.waypoints settings.outputDir := by
        rwa [FileSystem.waypoints_congr hworking]
      rw [hc.directory_of_mem_waypoints hway, hc'.directory_of_mem_waypoints hway']
    · -- anywhere else the two runs found the same and left it
      rw [hc.base_eq hway, hc'.base_eq (by rwa [FileSystem.waypoints_congr hworking])]
      refine hbefore loc hway fun table htable => ?_
      rw [← target_congr hc.built.working, ← temporary_congr hc.built.working]
      exact hoff table htable

/-- Everything is ready for the jobs of a run that went well, also once more after it: that a place
can be written to depends on directories alone. -/
theorem ready (hc : Completes catalog settings requested before base after files)
    {other : FileSystem} (hdirs : base.SameDirectories other) :
    ∀ table ∈ tables catalog settings requested,
      ∃ file, Ready catalog settings other table file := by
  intro table htable
  obtain ⟨file, -, hmade⟩ := exists_right_of_mem hc.made htable
  exact ⟨file, hmade.ready.renders, hmade.ready.temporary.congr hdirs,
    hmade.ready.target.congr hdirs⟩

end Completes

/-- **Where a run can go well, it does**, in whatever order its steps are taken. -/
theorem exists_ok (h : Separate catalog settings requested) {set : TableSet}
    {fs base : FileSystem} (hset : catalog.list requested settings.excludedTables = .ok set)
    (hbase : prepare settings fs = (base, .ok ()))
    (hready : ∀ table ∈ tables catalog settings requested,
      ∃ file, Ready catalog settings base table file) (schedule : Schedule) :
    ∃ o, (scheduled catalog settings requested schedule fs).outcome = .ok o := by
  have hjobs : HoldsOnTrack catalog settings requested base
      ⟨(begun settings set base).files, (begun settings set base).jobs⟩ := by
    rw [jobs_begun hset]
    exact .initial catalog settings requested base
  obtain ⟨p, hp⟩ := exists_follow h hready _ hjobs
  exact ⟨_, (scheduled_of_ok hset hbase hp).2⟩

/-- **The one result of a run**: what it reports, and what it leaves behind. Three things could make
a difference, and do not: the order of the steps, that the run has been carried out before, and what
its files held. Only the last is a condition, since with other files a run may fail. -/
structure HasOneResult (catalog : Catalog) (settings : GeneratorSettings)
    (requested : List String) (fs after : FileSystem) (o : Outcome) : Prop where
  /-- The report lists an entity file for each table, in order, and the files are published. -/
  files : ∃ files,
    List.Forall₂ (Renders catalog settings) (tables catalog settings requested) files ∧
      o.files = files.map (Job.summary settings) ∧ Published settings fs after files
  /-- Every order of the steps goes well and leads to the same. -/
  order : ∀ schedule, (scheduled catalog settings requested schedule fs).outcome = .ok o ∧
    ∀ loc, (scheduled catalog settings requested schedule fs).files.node? loc = after.node? loc
  /-- Once more changes nothing. -/
  again : ∀ schedule, (scheduled catalog settings requested schedule after).outcome = .ok o ∧
    ∀ loc, (scheduled catalog settings requested schedule after).files.node? loc = after.node? loc
  /-- What the places of the files held before does not matter. -/
  before : ∀ schedule fs' o', fs'.working = fs.working →
    (∀ loc, (∀ table ∈ tables catalog settings requested,
      loc ≠ target settings fs table ∧ loc ≠ temporary settings fs table) →
      fs'.node? loc = fs.node? loc) →
    (scheduled catalog settings requested schedule fs').outcome = .ok o' →
    o' = o ∧ ∀ loc,
      (scheduled catalog settings requested schedule fs').files.node? loc = after.node? loc

/-- **A run that goes well has one result**, whatever the order of its steps. One run that goes well
is asked for, under one schedule, and everything is said of all others; which of them is the one
that the program happens to carry out does not have to be known. -/
theorem hasOneResult (h : Regular catalog settings requested) {schedule : Schedule}
    {fs : FileSystem} {o : Outcome}
    (hrun : (scheduled catalog settings requested schedule fs).outcome = .ok o) :
    HasOneResult catalog settings requested fs
      (scheduled catalog settings requested schedule fs).files o := by
  obtain ⟨set, base, files, hset, hbase, hc, rfl⟩ := completes_of_ok h.separate hrun
  have hpublished := hc.published h.separate
  -- a run that goes well from files that agree with these leads to the same; the three clauses
  -- below differ in why the other run goes well and why its files agree
  have hsame : ∀ {other : Schedule} {fs' : FileSystem} {o' : Outcome},
      fs'.working = fs.working →
      (∀ loc, loc ∉ fs.waypoints settings.outputDir →
        (∀ table ∈ tables catalog settings requested,
          loc ≠ target settings fs table ∧ loc ≠ temporary settings fs table) →
        fs'.node? loc = fs.node? loc) →
      (scheduled catalog settings requested other fs').outcome = .ok o' →
      o' = report settings set files ∧ ∀ loc,
        (scheduled catalog settings requested other fs').files.node? loc =
          (scheduled catalog settings requested schedule fs).files.node? loc := by
    intro other fs' o' hworking hnodes hrun'
    obtain ⟨set', base', files', hset', hbase', hc', rfl⟩ := completes_of_ok h.separate hrun'
    obtain ⟨rfl, hafter⟩ := hc.agree hc' hworking hnodes
    rw [hset] at hset'
    rw [Except.ok.inj hset']
    exact ⟨rfl, hafter⟩
  refine ⟨⟨files, hc.renders, rfl, hpublished⟩, fun other => ?_, fun other => ?_,
    fun other fs' o' hworking hnodes hrun' => ?_⟩
  · -- another order from the same beginning: what the first run found ready is still ready
    obtain ⟨o', ho'⟩ := exists_ok h.separate hset hbase (hc.ready (.refl base)) other
    obtain ⟨rfl, hafter⟩ := hsame rfl (fun _ _ _ => rfl) ho'
    exact ⟨ho', hafter⟩
  · -- once more: the directory is there, and only files of the run and the way to it have changed
    have hprepare := prepare_of_directory h.writes hpublished.directory
    obtain ⟨o', ho'⟩ := exists_ok h.separate hset hprepare (hc.ready hc.directories) other
    have hnodes : ∀ loc, loc ∉ fs.waypoints settings.outputDir →
        (∀ table ∈ tables catalog settings requested,
          loc ≠ target settings fs table ∧ loc ≠ temporary settings fs table) →
        (scheduled catalog settings requested schedule fs).files.node? loc = fs.node? loc := by
      intro loc hway hplaces
      refine hpublished.elsewhere loc hway fun file hfile => ?_
      obtain ⟨table, htable, hrenders⟩ := exists_left_of_mem hc.renders hfile
      have hlocate := hc.locate_of_mem h.separate hrenders
      rw [hlocate.1, hlocate.2, target_congr hc.built.working, temporary_congr hc.built.working]
      exact hplaces table htable
    obtain ⟨rfl, hafter⟩ := hsame hpublished.working hnodes ho'
    exact ⟨ho', hafter⟩
  · -- other contents: that the run goes well is given, and the files agree where it is asked
    exact hsame hworking (fun loc _ hplaces => hnodes loc hplaces) hrun'

/-- A machine on which an earlier run has left an entity file, and one that was cut off a temporary
one. -/
def usedMachine : FileSystem where
  working := ["work"]
  entries :=
    [ (["work"], .directory),
      (["work", "out"], .directory),
      (["work", "out", "Customers.entity.ts"], .file "earlier".toByteArray),
      (["work", "out", ".Orders.entity.ts.tmp"], .file "torn".toByteArray) ]

/-- What is reported when the small request is carried out. -/
def shopOutcome : Outcome where
  dryRun := false
  files := [⟨"customers", "out/Customers.entity.ts", 303⟩, ⟨"orders", "out/Orders.entity.ts", 373⟩]
  missing := []
  colliding := []

/-- The two jobs of the small request in turns, on a used machine. The file that is in the way and
the temporary file of a run that was cut off make no difference. -/
theorem hasOneResult_shop :
    (Regular shop.catalog (settingsFor "out") [] ∧
      (scheduled shop.catalog (settingsFor "out") [] [1, 0, 1] usedMachine).outcome =
        .ok shopOutcome) ∧
    HasOneResult shop.catalog (settingsFor "out") [] usedMachine
      (scheduled shop.catalog (settingsFor "out") [] [1, 0, 1] usedMachine).files shopOutcome := by
  have hregular := regular_shop "out"
  have hrun : (scheduled shop.catalog (settingsFor "out") [] [1, 0, 1] usedMachine).outcome =
      .ok shopOutcome := by decide +kernel
  exact ⟨⟨hregular, hrun⟩, hasOneResult hregular hrun⟩

end CatalogEntities.Run
