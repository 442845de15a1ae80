import CatalogEntities.Proofs.FileSystem.Change
import CatalogEntities.Proofs.Run.Request

/-!
# `Proofs/Run/Job.lean` — what can happen to one job

A job **advances** by a step that succeeds, in one of five ways (`Job.Advances`). Short of that it
can be set back: a write can stop anywhere, and the temporary file of a rename that was refused can
be removed (`Job.SetBack`). The two together are all that a step ever does (`advances_of_step`,
`setBack_of_step`), so what a run does to files is read off seven cases. Which failure a step has is
told by three more (`Job.Fails`).

Whichever it is, nothing is touched but the two places of the job's table, and no directory comes or
goes (`Run.Touches`).

The relations are the inversion of `Job.step`. The function is unfolded in this module only; later
modules go through the cases, so that a step which did something more would be one more case here
and one more case in each of the statements on what a step keeps.
-/

set_option autoImplicit false

namespace CatalogEntities

namespace Job

/-- **A step of a job that succeeds.** The cases carry what the step has found out: that the table
can be described, or that the operation on files was not refused. -/
inductive Advances (catalog : Catalog) (settings : GeneratorSettings) :
    Job → FileSystem → Job → FileSystem → Prop
  /-- The table is described and rendered. -/
  | described {table t fs} (hwrites : settings.dryRun = false)
      (h : catalog.describe table = .ok t) :
      Advances catalog settings (waiting table) fs (rendered (EntityFile.ofTable settings t)) fs
  /-- The table is described and rendered, and that is all. -/
  | foreseen {table t fs} (hdry : settings.dryRun = true) (h : catalog.describe table = .ok t) :
      Advances catalog settings (waiting table) fs
        (finished (summary settings (EntityFile.ofTable settings t))) fs
  /-- The temporary file is written, with all of its bytes. -/
  | written {file fs after} (h : fs.writeFile (temporaryPath (path settings file))
      file.contents.toByteArray = .ok after) :
      Advances catalog settings (rendered file) fs (staged file) after
  /-- The temporary file is renamed. -/
  | renamed {file fs after} (h : fs.renameFile (temporaryPath (path settings file))
      (path settings file) = .ok after) :
      Advances catalog settings (staged file) fs (finished (summary settings file)) after
  /-- There is nothing left to do. -/
  | rested {file fs} : Advances catalog settings (finished file) fs (finished file) fs

/-- **What can happen to a job short of a step.** The first case is no step of the program at all:
it is what a machine may do in the middle of one, when it loses power or the program is ended. -/
inductive SetBack (settings : GeneratorSettings) : Job → FileSystem → FileSystem → Prop
  /-- The writing of the temporary file stops after some of its bytes. -/
  | torn {file fs after} (n : Nat) (h : fs.writeFile (temporaryPath (path settings file))
      (file.contents.toByteArray.extract 0 n) = .ok after) :
      SetBack settings (rendered file) fs after
  /-- The temporary file is not renamed but removed. -/
  | withdrawn {file fs after} (h : fs.removeFile (temporaryPath (path settings file)) = .ok after) :
      SetBack settings (staged file) fs after

/-- **A step of a job that fails.** A file is named by its final path, whichever of the two was
refused. -/
inductive Fails (catalog : Catalog) (settings : GeneratorSettings) :
    Job → FileSystem → Failure → Prop
  | undescribed {table fs f} (h : catalog.describe table = .error f) :
      Fails catalog settings (waiting table) fs f
  | unwritten {file fs fault} (h : fs.writeFile (temporaryPath (path settings file))
      file.contents.toByteArray = .error fault) :
      Fails catalog settings (rendered file) fs (.fileWrite (path settings file) fault)
  | unrenamed {file fs fault} (h : fs.renameFile (temporaryPath (path settings file))
      (path settings file) = .error fault) :
      Fails catalog settings (staged file) fs (.fileWrite (path settings file) fault)

section

variable {catalog : Catalog} {settings : GeneratorSettings} {job : Job} {fs : FileSystem}

theorem render_of_ok (hwrites : settings.dryRun = false) {table : String} {t : Table}
    (h : catalog.describe table = .ok t) :
    render catalog settings table fs =
      ⟨fs, RunEvent.processing table :: (catalog.notice t).map .noted,
        .ok (rendered (EntityFile.ofTable settings t))⟩ := by
  unfold render
  rw [h, hwrites]
  rfl

theorem render_of_dry (hdry : settings.dryRun = true) {table : String} {t : Table}
    (h : catalog.describe table = .ok t) :
    (render catalog settings table fs).files = fs ∧
      (render catalog settings table fs).result =
        .ok (finished (summary settings (EntityFile.ofTable settings t))) := by
  unfold render
  rw [h, hdry]
  exact ⟨rfl, rfl⟩

theorem render_of_error {table : String} {f : Failure} (h : catalog.describe table = .error f) :
    render catalog settings table fs = ⟨fs, [.processing table], .error f⟩ := by
  unfold render
  rw [h]

theorem stage_of_ok {file : EntityFile} {after : FileSystem}
    (h : fs.writeFile (temporaryPath (path settings file)) file.contents.toByteArray =
      .ok after) : stage settings file fs = ⟨after, [], .ok (staged file)⟩ := by
  unfold stage
  dsimp only
  rw [h]

theorem stage_of_error {file : EntityFile} {fault : SystemFault}
    (h : fs.writeFile (temporaryPath (path settings file)) file.contents.toByteArray =
      .error fault) :
    stage settings file fs = ⟨fs, [], .error (.fileWrite (path settings file) fault)⟩ := by
  unfold stage
  dsimp only
  rw [h]

theorem publish_of_ok {file : EntityFile} {after : FileSystem}
    (h : fs.renameFile (temporaryPath (path settings file)) (path settings file) = .ok after) :
    publish settings file fs =
      ⟨after, [.created (path settings file)], .ok (finished (summary settings file))⟩ := by
  unfold publish
  dsimp only
  rw [h]

/-- A rename that is refused fails, with the temporary file removed or nothing changed. -/
theorem publish_of_error {file : EntityFile} {fault : SystemFault}
    (h : fs.renameFile (temporaryPath (path settings file)) (path settings file) =
      .error fault) :
    (publish settings file fs).result = .error (.fileWrite (path settings file) fault) ∧
      ((publish settings file fs).files = fs ∨
        fs.removeFile (temporaryPath (path settings file)) =
          .ok (publish settings file fs).files) := by
  unfold publish
  dsimp only
  rw [h]
  dsimp only
  split
  · rename_i hremove
    exact ⟨rfl, Or.inr hremove⟩
  · exact ⟨rfl, Or.inl rfl⟩

/-- **A step that succeeds is one of the five advances.** -/
theorem advances_of_step {next : Job}
    (h : (job.step catalog settings fs).result = .ok next) :
    Advances catalog settings job fs next (job.step catalog settings fs).files := by
  -- at each stage the one operation of the stage decides
  cases job with
  | waiting table =>
    cases hdescribe : catalog.describe table with
    | error f =>
      rw [step, render_of_error hdescribe] at h
      exact absurd h (by simp)
    | ok t =>
      cases hdry : settings.dryRun with
      | false =>
        rw [step, render_of_ok hdry hdescribe] at h ⊢
        rw [← Except.ok.inj h]
        exact .described hdry hdescribe
      | true =>
        obtain ⟨hfiles, hresult⟩ := render_of_dry hdry hdescribe
        rw [step, hresult] at h
        rw [step, hfiles, ← Except.ok.inj h]
        exact .foreseen hdry hdescribe
  | rendered file =>
    rw [step] at h ⊢
    cases hwrite : fs.writeFile (temporaryPath (path settings file)) file.contents.toByteArray with
    | error fault =>
      rw [stage_of_error hwrite] at h
      exact absurd h (by simp)
    | ok after =>
      rw [stage_of_ok hwrite] at h ⊢
      rw [← Except.ok.inj h]
      exact .written hwrite
  | staged file =>
    rw [step] at h ⊢
    cases hrename : fs.renameFile (temporaryPath (path settings file)) (path settings file) with
    | error fault =>
      rw [(publish_of_error hrename).1] at h
      exact absurd h (by simp)
    | ok after =>
      rw [publish_of_ok hrename] at h ⊢
      rw [← Except.ok.inj h]
      exact .renamed hrename
  | finished file =>
    rw [← Except.ok.inj h]
    exact .rested

/-- A step that fails changes nothing or removes the temporary file. -/
theorem setBack_of_step {f : Failure} (h : (job.step catalog settings fs).result = .error f) :
    (job.step catalog settings fs).files = fs ∨
      SetBack settings job fs (job.step catalog settings fs).files := by
  cases job with
  | waiting table =>
    cases hdescribe : catalog.describe table with
    | error f =>
      rw [step, render_of_error hdescribe]
      exact Or.inl rfl
    | ok t =>
      refine Or.inl ?_
      rw [step, render, hdescribe]
      dsimp only
      split <;> rfl
  | rendered file =>
    rw [step] at h ⊢
    cases hwrite : fs.writeFile (temporaryPath (path settings file)) file.contents.toByteArray with
    | error fault =>
      rw [stage_of_error hwrite]
      exact Or.inl rfl
    | ok after =>
      rw [stage_of_ok hwrite] at h
      exact absurd h (by simp)
  | staged file =>
    rw [step] at h ⊢
    cases hrename : fs.renameFile (temporaryPath (path settings file)) (path settings file) with
    | error fault =>
      -- the only failure that changes files: the temporary file is removed again
      rcases (publish_of_error hrename).2 with hsame | hremove
      · exact Or.inl hsame
      · exact Or.inr (.withdrawn hremove)
    | ok after =>
      rw [publish_of_ok hrename] at h
      exact absurd h (by simp)
  | finished file => exact absurd h (by simp [step])

/-- Every advance is a step, so the cases of `Advances` are not only all there are but none too
many. -/
theorem step_of_advances {next : Job} {after : FileSystem}
    (h : Advances catalog settings job fs next after) :
    (job.step catalog settings fs).result = .ok next := by
  cases h with
  | described hwrites h => rw [step, render_of_ok hwrites h]
  | foreseen hdry h => rw [step, (render_of_dry hdry h).2]
  | written h => rw [step, stage_of_ok h]
  | renamed h => rw [step, publish_of_ok h]
  | rested => rfl

/-- **A step that fails is one of the three failures.** -/
theorem fails_of_step {f : Failure} (h : (job.step catalog settings fs).result = .error f) :
    Fails catalog settings job fs f := by
  cases job with
  | waiting table =>
    cases hdescribe : catalog.describe table with
    | error g =>
      rw [step, render_of_error hdescribe] at h
      rw [← Except.error.inj h]
      exact .undescribed hdescribe
    | ok t =>
      rw [step, render, hdescribe] at h
      dsimp only at h
      split at h <;> exact absurd h (by simp)
  | rendered file =>
    rw [step] at h
    cases hwrite : fs.writeFile (temporaryPath (path settings file)) file.contents.toByteArray with
    | error fault =>
      rw [stage_of_error hwrite] at h
      rw [← Except.error.inj h]
      exact .unwritten hwrite
    | ok after =>
      rw [stage_of_ok hwrite] at h
      exact absurd h (by simp)
  | staged file =>
    rw [step] at h
    cases hrename : fs.renameFile (temporaryPath (path settings file)) (path settings file) with
    | error fault =>
      rw [(publish_of_error hrename).1] at h
      rw [← Except.error.inj h]
      exact .unrenamed hrename
    | ok after =>
      rw [publish_of_ok hrename] at h
      exact absurd h (by simp)
  | finished file => exact absurd h (by simp [step])

theorem step_of_fails {f : Failure} (h : Fails catalog settings job fs f) :
    (job.step catalog settings fs).result = .error f := by
  cases h with
  | undescribed h => rw [step, render_of_error h]
  | unwritten h => rw [step, stage_of_error h]
  | unrenamed h => rw [step, (publish_of_error h).1]

end

/-- A job on a table, at whatever stage. A finished job has forgotten its entity file, so its report
must be that of one. -/
def IsFor (catalog : Catalog) (settings : GeneratorSettings) (table : String) : Job → Prop
  | waiting asked => asked = table
  | rendered file | staged file => Run.Renders catalog settings table file
  | finished done => ∃ file, Run.Renders catalog settings table file ∧ done = summary settings file

/-- No job leaves its table. -/
theorem isFor_of_advances {catalog : Catalog} {settings : GeneratorSettings} {table : String}
    {job next : Job} {fs after : FileSystem} (h : job.Advances catalog settings fs next after)
    (hjob : job.IsFor catalog settings table) : next.IsFor catalog settings table := by
  cases h with
  | described _ hdescribe =>
    have hasked : _ = table := hjob
    rw [hasked] at hdescribe
    exact ⟨_, hdescribe, rfl⟩
  | foreseen _ hdescribe =>
    have hasked : _ = table := hjob
    rw [hasked] at hdescribe
    exact ⟨_, ⟨_, hdescribe, rfl⟩, rfl⟩
  | written => exact hjob
  | renamed => exact ⟨_, hjob, rfl⟩
  | rested => exact hjob

end Job

/-! ## What is touched -/

namespace Run

variable {catalog : Catalog} {settings : GeneratorSettings} {requested : List String}
  {table : String} {file : EntityFile}

theorem Separate.name_eq (h : Separate catalog settings requested)
    (hfile : Renders catalog settings table file) :
    file.name = Naming.fileName table settings.fileSuffix := by
  obtain ⟨t, hdescribe, rfl⟩ := hfile
  rw [EntityFile.ofTable, h.named table t hdescribe]

/-- The path of a table's entity file leads to the file's place. -/
theorem Separate.locate_path (h : Separate catalog settings requested)
    (hfile : Renders catalog settings table file) (fs : FileSystem) :
    fs.locate (Job.path settings file) = target settings fs table := by
  rw [Job.path, h.name_eq hfile, target]

/-- The path of the temporary file leads to the place beside it. -/
theorem Separate.locate_temporaryPath (h : Separate catalog settings requested)
    (htable : table ∈ tables catalog settings requested)
    (hfile : Renders catalog settings table file) (fs : FileSystem) :
    fs.locate (Job.temporaryPath (Job.path settings file)) = temporary settings fs table := by
  have hname := h.isName htable
  rw [Job.temporaryPath, Job.path, h.name_eq hfile,
    Path.fileName?_of_steps (Path.steps_join _ hname) hname.notUp, Option.getD_some,
    h.temporary_eq htable]
  exact fs.locate_withFileName_join _ hname (isName_temporaryName hname.noSlash)

/-- **Nothing is touched but the places of a table.** This is the frame of everything that can
happen to a job. -/
structure Touches (settings : GeneratorSettings) (table : String) (before after : FileSystem) :
    Prop where
  directories : before.SameDirectories after
  elsewhere : ∀ loc, loc ≠ target settings before table → loc ≠ temporary settings before table →
    after.node? loc = before.node? loc

theorem Touches.refl (settings : GeneratorSettings) (table : String) (fs : FileSystem) :
    Touches settings table fs fs :=
  ⟨.refl fs, fun _ _ _ => rfl⟩

section

variable {fs after : FileSystem}

theorem Separate.touches_of_writeFile (h : Separate catalog settings requested)
    (htable : table ∈ tables catalog settings requested)
    (hfile : Renders catalog settings table file) {bytes : ByteArray}
    (hwrite : fs.writeFile (Job.temporaryPath (Job.path settings file)) bytes = .ok after) :
    Touches settings table fs after := by
  refine ⟨FileSystem.sameDirectories_of_writeFile hwrite, fun loc _ hloc => ?_⟩
  rw [FileSystem.node?_of_writeFile hwrite, h.locate_temporaryPath htable hfile, if_neg hloc]

theorem Separate.touches_of_removeFile (h : Separate catalog settings requested)
    (htable : table ∈ tables catalog settings requested)
    (hfile : Renders catalog settings table file)
    (hremove : fs.removeFile (Job.temporaryPath (Job.path settings file)) = .ok after) :
    Touches settings table fs after := by
  refine ⟨FileSystem.sameDirectories_of_removeFile hremove, fun loc _ hloc => ?_⟩
  rw [FileSystem.node?_of_removeFile hremove, h.locate_temporaryPath htable hfile, if_neg hloc]

theorem Separate.touches_of_renameFile (h : Separate catalog settings requested)
    (htable : table ∈ tables catalog settings requested)
    (hfile : Renders catalog settings table file)
    (hrename : fs.renameFile (Job.temporaryPath (Job.path settings file))
      (Job.path settings file) = .ok after) : Touches settings table fs after := by
  refine ⟨FileSystem.sameDirectories_of_renameFile hrename, fun loc htarget htemporary => ?_⟩
  obtain ⟨bytes, -, hnode⟩ := FileSystem.node?_of_renameFile hrename
  rw [hnode, h.locate_path hfile, h.locate_temporaryPath htable hfile, if_neg htarget,
    if_neg htemporary]

end

/-! ## What stands at the places of a table afterwards -/

section

variable {fs after : FileSystem}

theorem Separate.nodes_of_writeFile (h : Separate catalog settings requested)
    (htable : table ∈ tables catalog settings requested)
    (hfile : Renders catalog settings table file) {bytes : ByteArray}
    (hwrite : fs.writeFile (Job.temporaryPath (Job.path settings file)) bytes = .ok after) :
    after.node? (target settings fs table) = fs.node? (target settings fs table) ∧
      after.node? (temporary settings fs table) = some (.file bytes) := by
  have hnode := FileSystem.node?_of_writeFile hwrite
  rw [h.locate_temporaryPath htable hfile] at hnode
  constructor
  · rw [hnode, if_neg (h.target_ne_temporary htable htable fs)]
  · rw [hnode, if_pos rfl]

theorem Separate.nodes_of_removeFile (h : Separate catalog settings requested)
    (htable : table ∈ tables catalog settings requested)
    (hfile : Renders catalog settings table file)
    (hremove : fs.removeFile (Job.temporaryPath (Job.path settings file)) = .ok after) :
    after.node? (target settings fs table) = fs.node? (target settings fs table) ∧
      after.node? (temporary settings fs table) = none := by
  have hnode := FileSystem.node?_of_removeFile hremove
  rw [h.locate_temporaryPath htable hfile] at hnode
  constructor
  · rw [hnode, if_neg (h.target_ne_temporary htable htable fs)]
  · rw [hnode, if_pos rfl]

/-- **A renamed temporary file** is the entity file from then on. -/
theorem Separate.nodes_of_renameFile (h : Separate catalog settings requested)
    (htable : table ∈ tables catalog settings requested)
    (hfile : Renders catalog settings table file)
    (hrename : fs.renameFile (Job.temporaryPath (Job.path settings file))
      (Job.path settings file) = .ok after) :
    ∃ bytes, fs.node? (temporary settings fs table) = some (.file bytes) ∧
      after.node? (target settings fs table) = some (.file bytes) ∧
      after.node? (temporary settings fs table) = none := by
  obtain ⟨bytes, hsource, hnode⟩ := FileSystem.node?_of_renameFile hrename
  rw [h.locate_temporaryPath htable hfile] at hsource hnode
  rw [h.locate_path hfile] at hnode
  refine ⟨bytes, hsource, ?_, ?_⟩
  · rw [hnode, if_pos rfl]
  · rw [hnode, if_neg (h.target_ne_temporary htable htable fs).symm, if_pos rfl]

end

/-! ## Whatever happens to a job -/

/-- **An advance touches only the places of the table**, and leaves a job on the table. -/
theorem Separate.touches_of_advances (h : Separate catalog settings requested)
    (htable : table ∈ tables catalog settings requested) {job next : Job} {fs after : FileSystem}
    (hjob : job.IsFor catalog settings table)
    (hadvance : Job.Advances catalog settings job fs next after) :
    Touches settings table fs after ∧ next.IsFor catalog settings table := by
  have hnext := Job.isFor_of_advances hadvance hjob
  cases hadvance with
  | described _ hdescribe => exact ⟨.refl settings table fs, hnext⟩
  | foreseen _ hdescribe => exact ⟨.refl settings table fs, hnext⟩
  | written hwrite => exact ⟨h.touches_of_writeFile htable hjob hwrite, hnext⟩
  | renamed hrename => exact ⟨h.touches_of_renameFile htable hjob hrename, hnext⟩
  | rested => exact ⟨.refl settings table fs, hnext⟩

/-- A setback touches only the places of the table. -/
theorem Separate.touches_of_setBack (h : Separate catalog settings requested)
    (htable : table ∈ tables catalog settings requested) {job : Job} {fs after : FileSystem}
    (hjob : job.IsFor catalog settings table) (hback : Job.SetBack settings job fs after) :
    Touches settings table fs after := by
  cases hback with
  | torn n hwrite => exact h.touches_of_writeFile htable hjob hwrite
  | withdrawn hremove => exact h.touches_of_removeFile htable hjob hremove

end Run

end CatalogEntities
