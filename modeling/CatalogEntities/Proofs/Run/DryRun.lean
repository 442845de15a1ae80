import CatalogEntities.Proofs.Run.FailFast

/-!
# `Proofs/Run/DryRun.lean` — what a dry run tells of a real one

A dry run and a real one list, claim, describe and render in the same way, and neither looks at a
file to do so. All that they differ in is that a real run writes. So a dry run needs less in order
to go well, and what it needs less is only that files can be written.

The two runs may take their steps in different orders. That no order is lost on the way is already
said in `ok_iff_succeeds`; nothing here looks at steps again, except that a dry run is followed
through its turns to see that no file changes.

The other direction has its limit. A dry run that goes well does not promise that the real one does,
only that nothing but writing can stop it; the disk may be full by then.
-/

set_option autoImplicit false

namespace CatalogEntities.Run

variable {catalog : Catalog} {settings : GeneratorSettings} {requested : List String}
  {schedule other : Schedule} {fs : FileSystem} {o : Outcome} {f : Failure}

/-- **A dry run leaves all files as they are**, whether it goes well or fails. -/
theorem files_scheduled_of_dry (hdry : settings.dryRun = true) :
    (scheduled catalog settings requested schedule fs).files = fs := by
  cases hset : catalog.list requested settings.excludedTables with
  | error f => rw [scheduled_of_list_error hset]
  | ok set =>
    have hbase := prepare_of_dry hdry fs
    have hfiles := ((follows_carriedOut schedule hset hbase).dry hdry
      fun _ => idle_of_mem_jobs_begun).1
    rcases hcarried : carriedOut catalog settings set schedule fs with ⟨p, ended⟩
    rw [hcarried] at hfiles
    -- the jobs may have failed, but what they leave is the same
    cases ended with
    | ok _ =>
      rw [(scheduled_of_ok hset hbase hcarried).1]
      exact hfiles
    | error f =>
      rw [(scheduled_of_error hset hbase hcarried).1]
      exact hfiles

/-- A dry run goes well if its tables are listed and described: it needs nothing else. -/
theorem exists_ok_of_dry (hdry : settings.dryRun = true)
    (hlisted : ∃ set, catalog.list requested settings.excludedTables = .ok set)
    (hdescribed : ∀ table ∈ tables catalog settings requested,
      ∃ file, Renders catalog settings table file) :
    ∃ o, (scheduled catalog settings requested schedule fs).outcome = .ok o := by
  refine ok_iff_succeeds.2 ⟨hlisted, Or.inl hdry, fun i table htable => ?_⟩
  obtain ⟨file, hfile⟩ := hdescribed table (List.mem_of_getElem? htable)
  exact ⟨file, hfile, Or.inl hdry⟩

/-- **A dry run goes well where a real one does**, and reports the same. -/
theorem ok_of_real
    (hrun : (scheduled catalog { settings with dryRun := false } requested schedule fs).outcome =
      .ok o) :
    (scheduled catalog { settings with dryRun := true } requested other fs).outcome =
      .ok { o with dryRun := true } := by
  obtain ⟨set, files, hset, hfiles, rfl⟩ := reported_of_ok hrun
  have hdescribed : ∀ table ∈ tables catalog { settings with dryRun := true } requested,
      ∃ file, Renders catalog { settings with dryRun := true } table file := by
    intro table htable
    obtain ⟨file, -, hfile⟩ := exists_right_of_mem hfiles htable
    exact ⟨file, hfile⟩
  obtain ⟨dry, hdry⟩ : ∃ dry,
      (scheduled catalog { settings with dryRun := true } requested other fs).outcome = .ok dry :=
    exists_ok_of_dry rfl ⟨set, hset⟩ hdescribed
  obtain ⟨set', files', hset', hfiles', rfl⟩ := reported_of_ok hdry
  rw [hdry, Except.ok.inj (hset'.symm.trans hset), rightUnique_renders.forall₂ hfiles' hfiles]
  rfl

/-- **Where a dry run goes well, a real one fails only in writing.** -/
theorem fileWrite_of_dry
    (hdry : (scheduled catalog { settings with dryRun := true } requested other fs).outcome =
      .ok o)
    (hrun : (scheduled catalog { settings with dryRun := false } requested schedule fs).outcome =
      .error f) :
    ∃ path fault, f = .fileWrite path fault := by
  have hsucceeds := ok_iff_succeeds.1 ⟨o, hdry⟩
  cases failedStep_of_error hrun with
  | listing hlist =>
    obtain ⟨set, hset⟩ := hsucceeds.listed
    exact absurd (hset.symm.trans hlist) (by simp)
  | directory => exact ⟨_, _, rfl⟩
  | @turn turn table _ hturn htable hjob hfails =>
    obtain ⟨i, job, now⟩ := turn
    cases hfails with
    | undescribed hdescribe =>
      obtain ⟨file, ⟨t, ht, -⟩, -⟩ := hsucceeds.tables _ _ htable
      have hasked : _ = table := hjob
      rw [hasked] at hdescribe
      exact absurd (ht.symm.trans hdescribe) (by simp)
    | unwritten => exact ⟨_, _, rfl⟩
    | unrenamed => exact ⟨_, _, rfl⟩

/-- **What a dry run tells of a real one**, in whatever order each of them takes its steps. -/
structure Foretells (catalog : Catalog) (settings : GeneratorSettings) (requested : List String)
    (fs : FileSystem) : Prop where
  /-- A dry run changes no file, at its end and at any of its turns. -/
  untouched : ∀ schedule,
    (scheduled catalog { settings with dryRun := true } requested schedule fs).files = fs ∧
      ∀ turn ∈ turns catalog { settings with dryRun := true } requested schedule fs,
        turn.files = fs
  /-- The files, the missing and the colliding tables are those of the real run. -/
  agrees : ∀ schedule other o,
    (scheduled catalog { settings with dryRun := false } requested schedule fs).outcome = .ok o →
      (scheduled catalog { settings with dryRun := true } requested other fs).outcome =
        .ok { o with dryRun := true }
  /-- Where only the real run fails, it is a file or the output directory that could not be written.
  -/
  fails : ∀ schedule other o f,
    (scheduled catalog { settings with dryRun := true } requested other fs).outcome = .ok o →
    (scheduled catalog { settings with dryRun := false } requested schedule fs).outcome =
        .error f →
      ∃ path fault, f = .fileWrite path fault

/-- **A dry run foretells the real one** and touches nothing. -/
theorem foretells (catalog : Catalog) (settings : GeneratorSettings) (requested : List String)
    (fs : FileSystem) : Foretells catalog settings requested fs where
  untouched _ := ⟨files_scheduled_of_dry rfl, fun _ hturn => (idle_of_mem_turns rfl hturn).1⟩
  agrees _ _ _ hrun := ok_of_real hrun
  fails _ _ _ _ hdry hrun := fileWrite_of_dry hdry hrun

end CatalogEntities.Run
