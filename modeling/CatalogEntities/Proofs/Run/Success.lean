import CatalogEntities.Proofs.Run.Moment
import Mathlib.Data.List.Forall2

/-!
# `Proofs/Run/Success.lean` — runs in which nothing fails

Two questions about the jobs of a run, asked for every order of their steps.

What does a run that goes well tell? Every job has come to its end, since a schedule gives each of
them at least three turns; and a job that has come to its end has left a complete entity file, no
temporary file, and the knowledge that both of its places were writable (`OnTrack`).

When does a run go well? When every table can be described and its places are writable to begin with
(`Ready`), in whatever order the steps are taken: writing one table's files never makes those of
another unwritable.

The two answers fit together. What a run that goes well tells of its places is what another order
needs in order to go well, and that is how a statement about one schedule becomes one about all.
-/

set_option autoImplicit false

namespace CatalogEntities

/-! ## Turns -/

/-- The number of steps that a job needs to come to its end. It is the measure of a run: no step
raises it, and every turn of a job lowers it until it is zero. -/
def Job.remaining : Job → Nat
  | waiting _ => 3
  | rendered _ => 2
  | staged _ => 1
  | finished _ => 0

/-- An advance brings a job nearer to its end. In a dry run one is enough. -/
theorem Job.nearer_of_advances {catalog : Catalog} {settings : GeneratorSettings} {job next : Job}
    {fs after : FileSystem} (h : job.Advances catalog settings fs next after) :
    next.remaining ≤ job.remaining - 1 := by
  cases h with
  | foreseen => exact Nat.zero_le _
  | described | written | renamed | rested => exact Nat.le_refl _

theorem Schedule.count_round {count i : Nat} (hi : i < count) :
    1 ≤ (Schedule.round count).count i :=
  List.count_pos_iff.2 (List.mem_range.2 hi)

/-- The standard order gives every job three turns. -/
theorem Schedule.count_standard {count i : Nat} (hi : i < count) :
    3 ≤ (Schedule.standard count).count i := by
  obtain ⟨first, rest, hsplit⟩ := List.append_of_mem (List.mem_range.2 hi)
  have hround := Schedule.count_round hi
  have hpairs : 2 ≤ ((List.range count).flatMap fun j => [j, j]).count i := by
    rw [hsplit, List.flatMap_append, List.flatMap_cons, List.count_append, List.count_append]
    simp only [List.count_cons_self, List.count_nil]
    omega
  rw [Schedule.standard, List.count_append]
  omega

namespace Run

variable {catalog : Catalog} {settings : GeneratorSettings} {requested : List String}

/-- A turn that goes well is an advance of one job, or no job's turn. -/
theorem advance_eq_ok {p q : Progress} {i : Nat}
    (h : p.advance catalog settings i = (q, .ok ())) :
    (p.jobs[i]? = none ∧ q = p) ∨
      ∃ job next, p.jobs[i]? = some job ∧
        job.Advances catalog settings p.files next q.files ∧ q.jobs = p.jobs.set i next := by
  unfold Progress.advance at h
  split at h
  · rename_i hnone
    exact Or.inl ⟨hnone, (Prod.mk.inj h).1.symm⟩
  · rename_i job hjob
    dsimp only at h
    split at h
    · rename_i next hnext
      rw [← (Prod.mk.inj h).1]
      exact Or.inr ⟨job, next, hjob, Job.advances_of_step hnext, rfl⟩
    · exact absurd (Prod.mk.inj h).2 (by simp)

/-- A job that can advance does so at its turn. -/
theorem exists_advance {p : Progress} {i : Nat}
    {job next : Job} {after : FileSystem} (hjob : p.jobs[i]? = some job)
    (h : job.Advances catalog settings p.files next after) :
    ∃ q, p.advance catalog settings i = (q, .ok ()) := by
  have hstep := Job.step_of_advances h
  refine ⟨⟨(job.step catalog settings p.files).files,
    p.events ++ (job.step catalog settings p.files).events, p.jobs.set i next⟩, ?_⟩
  rw [Progress.advance, hjob]
  simp only [hstep]

/-- **What every turn keeps, a run keeps**, as long as nothing fails. All statements about runs that
go well use this one induction. -/
theorem of_follow {kept : Progress → Prop}
    (hturn : ∀ (p q : Progress) (i : Nat), kept p →
      p.advance catalog settings i = (q, .ok ()) → kept q)
    {schedule : Schedule} {p q : Progress} (hp : kept p)
    (h : p.follow catalog settings schedule = (q, .ok ())) : kept q := by
  induction schedule generalizing p with
  | nil =>
    rw [Progress.follow] at h
    rw [← (Prod.mk.inj h).1]
    exact hp
  | cons turn rest ih =>
    rw [Progress.follow] at h
    split at h
    · rename_i next hnext
      exact ih (hturn p next turn hp hnext) h
    · exact absurd (Prod.mk.inj h).2 (by simp)

/-- **Every turn brings a job nearer to its end**, and no job leaves its table. -/
theorem nearer_of_follow {schedule : Schedule} {p q : Progress}
    (h : p.follow catalog settings schedule = (q, .ok ())) {i : Nat} {job : Job}
    (hjob : q.jobs[i]? = some job) :
    ∃ before, p.jobs[i]? = some before ∧ job.remaining ≤ before.remaining - schedule.count i ∧
      ∀ table, before.IsFor catalog settings table → job.IsFor catalog settings table := by
  -- on the schedule, from its front: the induction hypothesis speaks of the turns behind the first
  induction schedule generalizing p with
  | nil =>
    rw [Progress.follow] at h
    rw [(Prod.mk.inj h).1]
    exact ⟨job, hjob, by simp, fun _ hfor => hfor⟩
  | cons turn rest ih =>
    rw [Progress.follow] at h
    split at h
    · rename_i next hnext
      obtain ⟨middle, hmiddle, hremaining, hfor⟩ := ih h
      rcases advance_eq_ok hnext with ⟨hnone, rfl⟩ | ⟨mover, moved, hmover, hadvance, hjobs⟩
      · -- nobody's turn, so not this job's either
        have hturn : turn ≠ i := by
          rintro rfl
          rw [hnone] at hmiddle
          exact absurd hmiddle (by simp)
        rw [List.count_cons_of_ne hturn]
        exact ⟨middle, hmiddle, hremaining, hfor⟩
      · rw [hjobs] at hmiddle
        by_cases hturn : turn = i
        · -- this job's turn: one turn less to come, and one step less to go
          subst hturn
          have hlength : turn < p.jobs.length := (List.getElem?_eq_some_iff.1 hmover).1
          rw [List.getElem?_set_self hlength] at hmiddle
          have hnearer := Job.nearer_of_advances hadvance
          rw [← Option.some.inj hmiddle] at hremaining hfor
          refine ⟨mover, hmover, ?_, fun table hmine =>
            hfor table (Job.isFor_of_advances hadvance hmine)⟩
          rw [List.count_cons_self]
          omega
        · -- another job's turn, at which this one stays what it was
          rw [List.getElem?_set_ne hturn] at hmiddle
          rw [List.count_cons_of_ne hturn]
          exact ⟨middle, hmiddle, hremaining, hfor⟩
    · exact absurd (Prod.mk.inj h).2 (by simp)

theorem length_of_follow {schedule : Schedule} {p q : Progress}
    (h : p.follow catalog settings schedule = (q, .ok ())) : q.jobs.length = p.jobs.length := by
  have hturn : ∀ (a b : Progress) (i : Nat), a.jobs.length = p.jobs.length →
      a.advance catalog settings i = (b, .ok ()) → b.jobs.length = p.jobs.length := by
    intro a b i hlength hadvance
    rcases advance_eq_ok hadvance with ⟨-, rfl⟩ | ⟨_, _, -, -, hjobs⟩
    · exact hlength
    · rw [hjobs, List.length_set]
      exact hlength
  exact of_follow hturn rfl h

/-- **In a run that goes well every job comes to its end**, on its own table. -/
theorem finished_of_follow {asked : List String} {schedule : Schedule} {p q : Progress}
    (hjobs : p.jobs = asked.map .waiting)
    (h : p.follow catalog settings (schedule ++ Schedule.standard p.jobs.length) = (q, .ok ()))
    {i : Nat} {table : String} {job : Job} (htable : asked[i]? = some table)
    (hjob : q.jobs[i]? = some job) :
    ∃ file, Renders catalog settings table file ∧
      job = .finished (Job.summary settings file) := by
  obtain ⟨before, hbefore, hremaining, hfor⟩ := nearer_of_follow h hjob
  have hturns := Schedule.count_standard (List.getElem?_eq_some_iff.1 hbefore).1
  have hstart : Job.waiting table = before := by
    rw [hjobs, List.getElem?_map, htable] at hbefore
    exact Option.some.inj hbefore
  have hmine : job.IsFor catalog settings table := hfor table (by rw [← hstart]; rfl)
  -- three steps were to go, and the standard order alone has three turns
  have hzero : job.remaining = 0 := by
    rw [List.count_append, ← hstart] at hremaining
    have : (Job.waiting table).remaining = 3 := rfl
    omega
  cases job with
  | finished done =>
    obtain ⟨file, hfile, rfl⟩ := hmine
    exact ⟨file, hfile, rfl⟩
  | waiting _ => exact absurd hzero (by simp [Job.remaining])
  | rendered _ => exact absurd hzero (by simp [Job.remaining])
  | staged _ => exact absurd hzero (by simp [Job.remaining])

/-! ## What a run that goes well tells -/

/-- **What an entity file can be made with**: its table is described, and both of its places are
writable to begin with. Nothing is asked of what stands there now. -/
structure Ready (catalog : Catalog) (settings : GeneratorSettings) (base : FileSystem)
    (table : String) (file : EntityFile) : Prop where
  renders : Renders catalog settings table file
  temporary : base.Writable (Job.temporaryPath (Job.path settings file))
  target : base.Writable (Job.path settings file)

/-- **A job to which nothing has happened but steps.** What it has written is there, and where it
has written could be written to in `base`. Jobs that were set back are left out, because a run in
which that happens does not go well. -/
structure OnTrack (catalog : Catalog) (settings : GeneratorSettings) (base : FileSystem)
    (table : String) (job : Job) (atTarget atTemporary : Option Node) : Prop where
  isFor : job.IsFor catalog settings table
  staged : ∀ file, job = .staged file →
    base.Writable (Job.temporaryPath (Job.path settings file)) ∧
      atTemporary = some (complete file)
  finished : ∀ done, job = .finished done →
    ∃ file, Ready catalog settings base table file ∧ done = Job.summary settings file ∧
      atTarget = some (complete file) ∧ atTemporary = none

section

variable {base fs after : FileSystem} {table : String} {job next : Job}

/-- **An advance keeps a job on its track.** Writing makes the temporary file complete, and renaming
moves what is complete. -/
theorem OnTrack.of_advances (h : Separate catalog settings requested)
    (htable : table ∈ tables catalog settings requested)
    (hdirs : base.SameDirectories fs)
    (htrack : OnTrack catalog settings base table job
      (fs.node? (Run.target settings fs table)) (fs.node? (Run.temporary settings fs table)))
    (hadvance : job.Advances catalog settings fs next after) :
    OnTrack catalog settings base table next
      (after.node? (Run.target settings fs table))
      (after.node? (Run.temporary settings fs table)) := by
  have hnext := (h.touches_of_advances htable htrack.isFor hadvance).2
  cases hadvance with
  | described =>
    exact ⟨hnext, fun other hother => absurd hother (by simp),
      fun other hother => absurd hother (by simp)⟩
  | foreseen hdry =>
    rw [h.writes] at hdry
    exact absurd hdry (by simp)
  | @written file _ _ hwrite =>
    obtain ⟨-, htemporary⟩ := h.nodes_of_writeFile htable hnext hwrite
    -- the path could be written to just now, and directories have not changed since `base`
    have hpath := (FileSystem.writeFile_eq_ok_iff.1 hwrite).1.congr hdirs.symm
    refine ⟨hnext, fun other hother => ?_, fun other hother => absurd hother (by simp)⟩
    rw [← Job.staged.inj hother, htemporary]
    exact ⟨hpath, rfl⟩
  | @renamed file _ _ hrename =>
    obtain ⟨bytes, hsource, htarget, htemporary⟩ :=
      h.nodes_of_renameFile htable htrack.isFor hrename
    obtain ⟨-, -, hpath, -, -⟩ := FileSystem.renameFile_eq_ok_iff.1 hrename
    obtain ⟨hstaged, hcomplete⟩ := htrack.staged file rfl
    refine ⟨hnext, fun other hother => absurd hother (by simp), fun other hother => ?_⟩
    refine ⟨file, ⟨htrack.isFor, hstaged, hpath.congr hdirs.symm⟩, ?_, ?_, htemporary⟩
    · exact (Job.finished.inj hother).symm
    · rw [htarget, ← hsource, hcomplete]
  | rested => exact htrack

end

/-- Every job of a moment is on its track from `base`. -/
abbrev HoldsOnTrack (catalog : Catalog) (settings : GeneratorSettings) (requested : List String)
    (base : FileSystem) : Moment → Prop :=
  Holds settings base (tables catalog settings requested) (OnTrack catalog settings base)

theorem HoldsOnTrack.initial (catalog : Catalog) (settings : GeneratorSettings)
    (requested : List String) (base : FileSystem) :
    HoldsOnTrack catalog settings requested base
      (.initial base (tables catalog settings requested)) :=
  holds_initial settings base _ fun _ _ =>
    ⟨rfl, fun _ hother => absurd hother (by simp), fun _ hother => absurd hother (by simp)⟩

theorem HoldsOnTrack.of_advance (h : Separate catalog settings requested) {base : FileSystem}
    {p q : Progress} {i : Nat} (hp : HoldsOnTrack catalog settings requested base ⟨p.files, p.jobs⟩)
    (hadvance : p.advance catalog settings i = (q, .ok ())) :
    HoldsOnTrack catalog settings requested base ⟨q.files, q.jobs⟩ := by
  rcases advance_eq_ok hadvance with ⟨-, rfl⟩ | ⟨job, next, hjob, hstep, hjobs⟩
  · exact hp
  · obtain ⟨table, htable, htrack⟩ := hp.exists_table hjob
    have hmem := List.mem_of_getElem? htable
    rw [hjobs]
    exact h.holds_set hp htable (h.touches_of_advances hmem htrack.isFor hstep).1
      (htrack.of_advances h hmem hp.directories hstep)

theorem HoldsOnTrack.of_follow (h : Separate catalog settings requested) {base : FileSystem}
    {schedule : Schedule} {p q : Progress}
    (hp : HoldsOnTrack catalog settings requested base ⟨p.files, p.jobs⟩)
    (hfollow : p.follow catalog settings schedule = (q, .ok ())) :
    HoldsOnTrack catalog settings requested base ⟨q.files, q.jobs⟩ := by
  have hturn : ∀ (a b : Progress) (i : Nat),
      HoldsOnTrack catalog settings requested base ⟨a.files, a.jobs⟩ →
        a.advance catalog settings i = (b, .ok ()) →
          HoldsOnTrack catalog settings requested base ⟨b.files, b.jobs⟩ := by
    intro a b i ha hadvance
    exact ha.of_advance h hadvance
  exact Run.of_follow hturn hp hfollow

/-- What a table's places hold when its entity file is made. -/
structure Made (catalog : Catalog) (settings : GeneratorSettings) (base after : FileSystem)
    (table : String) (file : EntityFile) : Prop where
  ready : Ready catalog settings base table file
  target : after.node? (Run.target settings base table) = some (complete file)
  temporary : after.node? (Run.temporary settings base table) = none

/-- Two lists that match place by place, by way of a third. -/
theorem exists_forall₂_of_getElem? {α β γ : Type} {R : α → γ → Prop} {f : γ → β} {xs : List α}
    {ys : List β} (hlength : ys.length = xs.length)
    (h : ∀ (i : Nat) (x : α) (y : β), xs[i]? = some x → ys[i]? = some y → ∃ z, R x z ∧ y = f z) :
    ∃ zs, List.Forall₂ R xs zs ∧ ys = zs.map f := by
  induction xs generalizing ys with
  | nil => exact ⟨[], .nil, List.length_eq_zero_iff.1 hlength⟩
  | cons x xs ih =>
    cases ys with
    | nil => exact absurd hlength (by simp)
    | cons y ys =>
      obtain ⟨z, hz, rfl⟩ := h 0 x y rfl rfl
      obtain ⟨zs, hzs, rfl⟩ := ih (Nat.succ.inj hlength) fun i => h (i + 1)
      exact ⟨z :: zs, .cons hz hzs, rfl⟩

theorem exists_right_of_mem {α γ : Type} {R : α → γ → Prop} {xs : List α} {zs : List γ}
    (h : List.Forall₂ R xs zs) {x : α} (hx : x ∈ xs) : ∃ z ∈ zs, R x z := by
  induction h with
  | nil => exact absurd hx List.not_mem_nil
  | cons hfirst _ ih =>
    rcases List.mem_cons.1 hx with rfl | hx
    · exact ⟨_, List.mem_cons_self, hfirst⟩
    · obtain ⟨z, hz, hR⟩ := ih hx
      exact ⟨z, List.mem_cons_of_mem _ hz, hR⟩

theorem exists_left_of_mem {α γ : Type} {R : α → γ → Prop} {xs : List α} {zs : List γ}
    (h : List.Forall₂ R xs zs) {z : γ} (hz : z ∈ zs) : ∃ x ∈ xs, R x z :=
  exists_right_of_mem h.flip hz

/-- **A run that goes well makes every entity file**, in whatever order its steps are taken. -/
theorem made_of_follow (h : Separate catalog settings requested) {base : FileSystem}
    {schedule : Schedule} {p q : Progress} (hfiles : p.files = base)
    (hjobs : p.jobs = (tables catalog settings requested).map .waiting)
    (hfollow : p.follow catalog settings (schedule ++ Schedule.standard p.jobs.length) =
      (q, .ok ())) :
    HoldsOnTrack catalog settings requested base ⟨q.files, q.jobs⟩ ∧
      ∃ files, List.Forall₂ (Made catalog settings base q.files)
          (tables catalog settings requested) files ∧
        q.jobs = files.map fun file => .finished (Job.summary settings file) := by
  have hp : HoldsOnTrack catalog settings requested base ⟨p.files, p.jobs⟩ := by
    rw [hfiles, hjobs]
    exact .initial catalog settings requested base
  have hq := hp.of_follow h hfollow
  refine ⟨hq, exists_forall₂_of_getElem? hq.count fun i table job htable hjob => ?_⟩
  obtain ⟨file, hfile, rfl⟩ := finished_of_follow hjobs hfollow htable hjob
  obtain ⟨other, hready, hsummary, htarget, htemporary⟩ :=
    (hq.job i table _ htable hjob).finished _ rfl
  exact ⟨other, ⟨hready, htarget, htemporary⟩, by rw [hsummary]⟩

/-! ## When a run goes well -/

/-- A table has one entity file. -/
theorem Renders.unique {table : String} {file other : EntityFile}
    (hfile : Renders catalog settings table file) (hother : Renders catalog settings table other) :
    file = other := by
  obtain ⟨t, hdescribe, rfl⟩ := hfile
  obtain ⟨u, hdescribe', rfl⟩ := hother
  rw [hdescribe] at hdescribe'
  rw [Except.ok.inj hdescribe']

theorem rightUnique_renders : Relator.RightUnique (Renders catalog settings) :=
  fun _ _ _ hfile hother => hfile.unique hother

/-- **A job whose table is ready can take its next step**, wherever it is: what it needs was there
to begin with or was made by its own last step. -/
theorem exists_advances (h : Separate catalog settings requested) {base fs : FileSystem}
    {table : String} {file : EntityFile} {job : Job}
    (htable : table ∈ tables catalog settings requested) (hdirs : base.SameDirectories fs)
    (hready : Ready catalog settings base table file)
    (htrack : OnTrack catalog settings base table job
      (fs.node? (target settings fs table)) (fs.node? (temporary settings fs table))) :
    ∃ next after, job.Advances catalog settings fs next after := by
  have htemporary := hready.temporary.congr hdirs
  cases job with
  | waiting asked =>
    obtain ⟨t, hdescribe, -⟩ := hready.renders
    have hasked : asked = table := htrack.isFor
    rw [← hasked] at hdescribe
    exact ⟨_, _, .described h.writes hdescribe⟩
  | rendered other =>
    rw [hready.renders.unique htrack.isFor] at htemporary
    exact ⟨_, _, .written (FileSystem.writeFile_eq_ok_iff.2 ⟨htemporary, rfl⟩)⟩
  | staged other =>
    have hsame := hready.renders.unique htrack.isFor
    have htarget := hready.target.congr hdirs
    rw [hsame] at htemporary htarget
    have hnode := (htrack.staged other rfl).2
    rw [← h.locate_temporaryPath htable htrack.isFor] at hnode
    exact ⟨_, _, .renamed
      (FileSystem.renameFile_eq_ok_iff.2 ⟨_, htemporary, htarget, hnode, rfl⟩)⟩
  | finished done => exact ⟨_, _, .rested⟩

/-- **Where every table is ready, every order of the steps goes well.** -/
theorem exists_follow (h : Separate catalog settings requested) {base : FileSystem}
    (hready : ∀ table ∈ tables catalog settings requested,
      ∃ file, Ready catalog settings base table file)
    (schedule : Schedule) {p : Progress}
    (hp : HoldsOnTrack catalog settings requested base ⟨p.files, p.jobs⟩) :
    ∃ q, p.follow catalog settings schedule = (q, .ok ()) := by
  -- on the schedule; that all jobs are on track is kept by every turn and makes the next possible
  induction schedule generalizing p with
  | nil => exact ⟨p, rfl⟩
  | cons turn rest ih =>
    have hturn : ∃ next, p.advance catalog settings turn = (next, .ok ()) := by
      cases hjob : p.jobs[turn]? with
      | none => exact ⟨p, by rw [Progress.advance, hjob]⟩
      | some job =>
        obtain ⟨table, htable, htrack⟩ := hp.exists_table hjob
        have hmem := List.mem_of_getElem? htable
        obtain ⟨file, hfile⟩ := hready table hmem
        obtain ⟨next, after, hadvance⟩ := exists_advances h hmem hp.directories hfile htrack
        exact exists_advance hjob hadvance
    obtain ⟨next, hnext⟩ := hturn
    rw [Progress.follow, hnext]
    exact ih (hp.of_advance h hnext)

end Run

end CatalogEntities
