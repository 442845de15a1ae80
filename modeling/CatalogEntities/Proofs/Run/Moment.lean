import CatalogEntities.Proofs.FileSystem.Directories
import CatalogEntities.Proofs.Run.Job

/-!
# `Proofs/Run/Moment.lean` — the moments of a run

A run makes directories one at a time, and after that its jobs move in any order. What the files and
the jobs are at some point of it is a **moment**; `Reaches` says which moments there are. Every
result of the program is one of them (`reaches_scheduled`), and so is everything in between, also
what is left when a run is cut off or when a write stops halfway.

Statements about all moments are carried by `Holds`: one condition on each job and the two places of
its table, and for all other places that they are as they were. Since the places of two tables are
different, a move has only to establish the condition for the job that moves (`holds_set`).

Moments are a relation and not a function of schedules. There are more of them than a program ever
stands at, because a write may stop halfway; and what is proved of all of them needs no account of
how a schedule is continued.
-/

set_option autoImplicit false

namespace CatalogEntities.Run

open FileSystem (Making SameDirectories)

/-- **A point of a run**: the files as they are, and how far each job is. -/
structure Moment where
  files : FileSystem
  jobs : List Job

/-- The moment at which nothing is done yet. -/
def Moment.initial (fs : FileSystem) (tables : List String) : Moment := ⟨fs, tables.map .waiting⟩

/-- **A move of one job**: it advances, or is set back and stays at its stage. A job that was set
back may move again, as no program would make it, so more is said of the moments than the program
needs. -/
inductive Move (catalog : Catalog) (settings : GeneratorSettings) : Moment → Moment → Prop
  | advance {m : Moment} {i : Nat} {job next : Job} {after : FileSystem}
      (hjob : m.jobs[i]? = some job) (h : job.Advances catalog settings m.files next after) :
      Move catalog settings m ⟨after, m.jobs.set i next⟩
  | setBack {m : Moment} {i : Nat} {job : Job} {after : FileSystem}
      (hjob : m.jobs[i]? = some job) (h : job.SetBack settings m.files after) :
      Move catalog settings m ⟨after, m.jobs⟩

/-- **The moments of a run**: some of the directories are made, then the jobs move. Where the
listing fails there are no tables, and nothing can move. -/
def Reaches (catalog : Catalog) (settings : GeneratorSettings) (requested : List String)
    (fs : FileSystem) (m : Moment) : Prop :=
  ∃ base, Relation.ReflTransGen (Making settings.outputDir) fs base ∧
    Relation.ReflTransGen (Move catalog settings)
      (.initial base (tables catalog settings requested)) m

/-! ## A program's run -/

section

variable {catalog : Catalog} {settings : GeneratorSettings}

/-- A step of a program is a move, or nothing happens. -/
theorem move_advance (catalog : Catalog) (settings : GeneratorSettings) (p : Progress) (i : Nat) :
    Relation.ReflTransGen (Move catalog settings) ⟨p.files, p.jobs⟩
      ⟨(p.advance catalog settings i).1.files, (p.advance catalog settings i).1.jobs⟩ := by
  unfold Progress.advance
  split
  · exact .refl
  · rename_i job hjob
    dsimp only
    split
    · rename_i next hnext
      exact .single (.advance hjob (Job.advances_of_step hnext))
    · rename_i f hf
      rcases Job.setBack_of_step hf with hsame | hback
      · dsimp only
        rw [hsame]
      · exact .single (.setBack hjob hback)

/-- **The steps of a schedule are moves**, up to the failure that ends them and with what that
leaves behind. -/
theorem moves_follow (schedule : Schedule) (p : Progress) :
    Relation.ReflTransGen (Move catalog settings) ⟨p.files, p.jobs⟩
      ⟨(p.follow catalog settings schedule).1.files,
        (p.follow catalog settings schedule).1.jobs⟩ := by
  induction schedule generalizing p with
  | nil => exact .refl
  | cons i rest ih =>
    have hfirst := move_advance catalog settings p i
    rw [Progress.follow]
    split
    · rename_i next hnext
      rw [hnext] at hfirst
      exact hfirst.trans (ih next)
    · rename_i next f hnext
      rw [hnext] at hfirst
      exact hfirst

/-- Making the output directory is making directories on the way to it. -/
theorem making_prepare (hwrites : settings.dryRun = false) (fs : FileSystem) :
    Relation.ReflTransGen (Making settings.outputDir) fs (prepare settings fs).1 := by
  have hmaking := FileSystem.makeDirectoriesWithin_making settings.outputDir
    (settings.outputDir.length + 1) fs
  rw [prepare, hwrites]
  simp only [Bool.false_eq_true, if_false, FileSystem.makeDirectories]
  split
  · rename_i hmade
    rw [hmade] at hmaking
    exact hmaking
  · rename_i hmade
    rw [hmade] at hmaking
    exact hmaking

theorem tables_of_list {requested : List String} {set : TableSet}
    (h : catalog.list requested settings.excludedTables = .ok set) :
    tables catalog settings requested = Claim.claimed settings.fileSuffix set.found := by
  rw [tables, h]

/-- How a run stands when its directories are made: what it knows has been told, and every job
waits. -/
def begun (settings : GeneratorSettings) (set : TableSet) (base : FileSystem) : Progress :=
  ⟨base, preamble settings set (Claim.decide settings.fileSuffix set.found),
    (Claim.claimed settings.fileSuffix set.found).map .waiting⟩

theorem jobs_begun {requested : List String} {set : TableSet}
    (h : catalog.list requested settings.excludedTables = .ok set) (base : FileSystem) :
    (begun settings set base).jobs = (tables catalog settings requested).map .waiting := by
  rw [tables_of_list h]
  rfl

/-- The jobs of a run, carried out in the order of a schedule and then in the standard order, which
finishes those that the schedule leaves unfinished. -/
def carriedOut (catalog : Catalog) (settings : GeneratorSettings) (set : TableSet)
    (schedule : Schedule) (base : FileSystem) : Progress × Except Failure Unit :=
  (begun settings set base).follow catalog settings
    (schedule ++ Schedule.standard (begun settings set base).jobs.length)

section

variable {requested : List String} {schedule : Schedule} {set : TableSet}
  {fs base : FileSystem} {p : Progress} {f : Failure}

theorem scheduled_of_list_error (h : catalog.list requested settings.excludedTables = .error f) :
    scheduled catalog settings requested schedule fs =
      ⟨fs, [.started catalog.kind, .requested requested], .error f⟩ := by
  unfold scheduled
  dsimp only
  rw [h]

theorem scheduled_of_prepare_error
    (hset : catalog.list requested settings.excludedTables = .ok set)
    (h : prepare settings fs = (base, .error f)) :
    (scheduled catalog settings requested schedule fs).files = base ∧
      (scheduled catalog settings requested schedule fs).outcome = .error f := by
  unfold scheduled work
  dsimp only
  rw [hset, h]
  exact ⟨rfl, rfl⟩

theorem scheduled_of_error (hset : catalog.list requested settings.excludedTables = .ok set)
    (hbase : prepare settings fs = (base, .ok ()))
    (h : carriedOut catalog settings set schedule base = (p, .error f)) :
    (scheduled catalog settings requested schedule fs).files = p.files ∧
      (scheduled catalog settings requested schedule fs).outcome = .error f := by
  unfold carriedOut begun Claim.claimed at h
  unfold scheduled work
  dsimp only at h ⊢
  rw [hset, hbase]
  dsimp only
  rw [h]
  exact ⟨rfl, rfl⟩

theorem scheduled_of_ok (hset : catalog.list requested settings.excludedTables = .ok set)
    (hbase : prepare settings fs = (base, .ok ()))
    (h : carriedOut catalog settings set schedule base = (p, .ok ())) :
    (scheduled catalog settings requested schedule fs).files = p.files ∧
      (scheduled catalog settings requested schedule fs).outcome =
        .ok (outcome settings set (Claim.decide settings.fileSuffix set.found) p.jobs) := by
  unfold carriedOut begun Claim.claimed at h
  unfold scheduled work
  dsimp only at h ⊢
  rw [hset, hbase]
  dsimp only
  rw [h]
  exact ⟨rfl, rfl⟩

/-- A run goes well exactly in one way: all its parts do. This is the inversion of `scheduled`; it
is not unfolded where a run is known to go well. -/
theorem scheduled_eq_ok {o : Outcome}
    (h : (scheduled catalog settings requested schedule fs).outcome = .ok o) :
    ∃ set base p, catalog.list requested settings.excludedTables = .ok set ∧
      prepare settings fs = (base, .ok ()) ∧
      carriedOut catalog settings set schedule base = (p, .ok ()) ∧
      (scheduled catalog settings requested schedule fs).files = p.files ∧
      o = outcome settings set (Claim.decide settings.fileSuffix set.found) p.jobs := by
  cases hset : catalog.list requested settings.excludedTables with
  | error f =>
    rw [scheduled_of_list_error hset] at h
    exact absurd h (by simp)
  | ok set =>
    rcases hbase : prepare settings fs with ⟨base, made⟩
    cases made with
    | error f =>
      rw [(scheduled_of_prepare_error hset hbase).2] at h
      exact absurd h (by simp)
    | ok _ =>
      rcases hfollow : carriedOut catalog settings set schedule base with ⟨p, ended⟩
      cases ended with
      | error f =>
        rw [(scheduled_of_error hset hbase hfollow).2] at h
        exact absurd h (by simp)
      | ok _ =>
        obtain ⟨hfiles, houtcome⟩ := scheduled_of_ok hset hbase hfollow
        rw [houtcome] at h
        exact ⟨set, base, p, rfl, rfl, hfollow, hfiles, (Except.ok.inj h).symm⟩

end

/-- **What a program leaves behind is a moment**, in whatever order it takes its steps and wherever
it fails. -/
theorem reaches_scheduled (catalog : Catalog) (hwrites : settings.dryRun = false)
    (requested : List String) (schedule : Schedule) (fs : FileSystem) :
    ∃ jobs, Reaches catalog settings requested fs
      ⟨(scheduled catalog settings requested schedule fs).files, jobs⟩ := by
  -- a run can end in four places, and each of them is a moment
  cases hset : catalog.list requested settings.excludedTables with
  | error f =>
    rw [scheduled_of_list_error hset]
    exact ⟨_, fs, .refl, .refl⟩
  | ok set =>
    have hprepare := making_prepare hwrites fs
    rcases hbase : prepare settings fs with ⟨base, made⟩
    rw [hbase] at hprepare
    cases made with
    | error f =>
      rw [(scheduled_of_prepare_error hset hbase).1]
      exact ⟨_, base, hprepare, .refl⟩
    | ok _ =>
      have hmoves : Relation.ReflTransGen (Move catalog settings)
          (.initial base (tables catalog settings requested))
          ⟨(carriedOut catalog settings set schedule base).1.files,
            (carriedOut catalog settings set schedule base).1.jobs⟩ := by
        rw [tables_of_list hset]
        exact moves_follow _ (begun settings set base)
      rcases hfollow : carriedOut catalog settings set schedule base with ⟨p, ended⟩
      rw [hfollow] at hmoves
      cases ended with
      | error f =>
        rw [(scheduled_of_error hset hbase hfollow).1]
        exact ⟨p.jobs, base, hprepare, hmoves⟩
      | ok _ =>
        rw [(scheduled_of_ok hset hbase hfollow).1]
        exact ⟨p.jobs, base, hprepare, hmoves⟩

end

/-! ## One condition on every job -/

/-- **What holds of all jobs and of all else at a moment**: a condition on each job and on what
stands at the two places of its table; elsewhere everything is as it was in `base`. The statements
on runs differ in the condition, and share what is proved here about moving from one job to the
next. -/
structure Holds (settings : GeneratorSettings) (base : FileSystem) (tables : List String)
    (condition : String → Job → Option Node → Option Node → Prop) (m : Moment) : Prop where
  directories : SameDirectories base m.files
  count : m.jobs.length = tables.length
  job : ∀ (i : Nat) (table : String) (job : Job), tables[i]? = some table → m.jobs[i]? = some job →
    condition table job (m.files.node? (target settings base table))
      (m.files.node? (temporary settings base table))
  elsewhere : ∀ loc, (∀ table ∈ tables,
      loc ≠ target settings base table ∧ loc ≠ temporary settings base table) →
    m.files.node? loc = base.node? loc

variable {catalog : Catalog} {settings : GeneratorSettings} {requested : List String}
  {base : FileSystem} {condition : String → Job → Option Node → Option Node → Prop}

theorem holds_initial (settings : GeneratorSettings) (base : FileSystem) (tables : List String)
    (h : ∀ table ∈ tables, condition table (.waiting table)
      (base.node? (target settings base table)) (base.node? (temporary settings base table))) :
    Holds settings base tables condition (.initial base tables) where
  directories := .refl base
  count := List.length_map _
  job i table job htable hjob := by
    rw [Moment.initial, List.getElem?_map, htable] at hjob
    rw [← Option.some.inj hjob]
    exact h table (List.mem_of_getElem? htable)
  elsewhere _ _ := rfl

/-- Every job is on a table, and the condition holds of it. -/
theorem Holds.exists_table {tables : List String} {m : Moment}
    (hm : Holds settings base tables condition m) {i : Nat} {job : Job}
    (hjob : m.jobs[i]? = some job) :
    ∃ table, tables[i]? = some table ∧
      condition table job (m.files.node? (target settings m.files table))
        (m.files.node? (temporary settings m.files table)) := by
  have hi : i < tables.length := hm.count ▸ (List.getElem?_eq_some_iff.1 hjob).1
  refine ⟨tables[i], List.getElem?_eq_getElem hi, ?_⟩
  rw [target_congr hm.directories.forth.working, temporary_congr hm.directories.forth.working]
  exact hm.job i _ job (List.getElem?_eq_getElem hi) hjob

/-- **Only the job that moves has to keep the condition.** For the others it speaks of places that
the move has not touched. -/
theorem Separate.holds_set (h : Separate catalog settings requested) {m : Moment}
    (hm : Holds settings base (tables catalog settings requested) condition m) {i : Nat}
    {table : String} {next : Job} {after : FileSystem}
    (htable : (tables catalog settings requested)[i]? = some table)
    (htouch : Touches settings table m.files after)
    (hnext : condition table next (after.node? (target settings m.files table))
      (after.node? (temporary settings m.files table))) :
    Holds settings base (tables catalog settings requested) condition
      ⟨after, m.jobs.set i next⟩ := by
  have htarget : target settings m.files table = target settings base table :=
    target_congr hm.directories.forth.working table
  have htemporary : temporary settings m.files table = temporary settings base table :=
    temporary_congr hm.directories.forth.working table
  have hframe : ∀ loc, loc ≠ target settings base table → loc ≠ temporary settings base table →
      after.node? loc = m.files.node? loc := by
    rw [← htarget, ← htemporary]
    exact htouch.elsewhere
  rw [htarget, htemporary] at hnext
  refine ⟨hm.directories.trans htouch.directories, ?_, ?_, ?_⟩
  · rw [List.length_set]
    exact hm.count
  · intro j other job hother hjob
    by_cases hij : i = j
    · -- the job that has moved
      subst hij
      have hi : i < m.jobs.length := hm.count ▸ (List.getElem?_eq_some_iff.1 htable).1
      rw [List.getElem?_set_self hi] at hjob
      rw [← Option.some.inj (htable.symm.trans hother), ← Option.some.inj hjob]
      exact hnext
    · -- another job, which has not noticed
      rw [List.getElem?_set_ne hij] at hjob
      have hapart := h.apart hij htable hother base
      rw [hframe _ (hapart _ (Or.inl rfl)).1 (hapart _ (Or.inl rfl)).2,
        hframe _ (hapart _ (Or.inr rfl)).1 (hapart _ (Or.inr rfl)).2]
      exact hm.job j other job hother hjob
  · intro loc hloc
    have hplaces := hloc table (List.mem_of_getElem? htable)
    rw [hframe loc hplaces.1 hplaces.2]
    exact hm.elsewhere loc hloc

end CatalogEntities.Run
