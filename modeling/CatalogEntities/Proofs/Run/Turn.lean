import CatalogEntities.Proofs.Run.Success

/-!
# `Proofs/Run/Turn.lean` — the turns of a run

A schedule names jobs, and whoever is named takes a step: that is a **turn**. A turn remembers the
job and the files as it finds them. Turns are taken up to the first that fails, so the turns of a
run hold all that was ever asked of a catalog and of the files, and in which order.

`Progress.Follows` says once what taking turns can come to, in four cases; everything said of all
turns of a run is an induction over these. Two facts carry what comes after: only the last turn can
fail, and a job is further at each of its turns than at the one before (`Follows.pairwise`).

Turns are needed where a statement is about what a run *asks*: which tables it describes, what a
failure comes from, what is told. `Moment` is about what a run leaves, and cannot say these things;
so the two are separate, and have the steps of a job in common.
-/

set_option autoImplicit false

namespace CatalogEntities

/-- **A turn of a job**: which one it is, how far it is, and the files as it finds them. -/
structure Turn where
  index : Nat
  job : Job
  files : FileSystem

def Turn.result (catalog : Catalog) (settings : GeneratorSettings) (turn : Turn) :
    Except Failure Job :=
  (turn.job.step catalog settings turn.files).result

namespace Progress

/-- **The turns of a schedule.** After a turn that fails there are no more; numbers that belong to
no job are nobody's turn and leave no trace. -/
def turns (catalog : Catalog) (settings : GeneratorSettings) : Progress → Schedule → List Turn
  | _, [] => []
  | p, i :: rest =>
      match p.jobs[i]? with
      | none => turns catalog settings p rest
      | some job =>
          ⟨i, job, p.files⟩ ::
            match p.advance catalog settings i with
            | (q, .ok ()) => turns catalog settings q rest
            | (_, .error _) => []

/-- **What taking the turns of a schedule can come to.** The cases say of the progress `q` behind a
turn what it holds and not what it is, so that an induction over them need not unfold a step. -/
inductive Follows (catalog : Catalog) (settings : GeneratorSettings) :
    Progress → Schedule → List Turn → Progress × Except Failure Unit → Prop
  | done {p} : Follows catalog settings p [] [] (p, .ok ())
  | nobody {p i rest turns r} (hnone : p.jobs[i]? = none)
      (hrest : Follows catalog settings p rest turns r) :
      Follows catalog settings p (i :: rest) turns r
  | taken {p q i rest job next turns r} (hjob : p.jobs[i]? = some job)
      (hnext : (job.step catalog settings p.files).result = .ok next)
      (hfiles : q.files = (job.step catalog settings p.files).files)
      (hevents : q.events = p.events ++ (job.step catalog settings p.files).events)
      (hjobs : q.jobs = p.jobs.set i next)
      (hrest : Follows catalog settings q rest turns r) :
      Follows catalog settings p (i :: rest) (⟨i, job, p.files⟩ :: turns) r
  | failed {p q i rest job f} (hjob : p.jobs[i]? = some job)
      (hf : (job.step catalog settings p.files).result = .error f)
      (hfiles : q.files = (job.step catalog settings p.files).files)
      (hevents : q.events = p.events ++ (job.step catalog settings p.files).events)
      (hjobs : q.jobs = p.jobs) :
      Follows catalog settings p (i :: rest) [⟨i, job, p.files⟩] (q, .error f)

variable {catalog : Catalog} {settings : GeneratorSettings}

/-- **`follow` takes the turns that `turns` lists.** The functions are unfolded here, and nowhere
after this. -/
theorem follows (catalog : Catalog) (settings : GeneratorSettings) (p : Progress)
    (schedule : Schedule) :
    Follows catalog settings p schedule (p.turns catalog settings schedule)
      (p.follow catalog settings schedule) := by
  induction schedule generalizing p with
  | nil => exact .done
  | cons i rest ih =>
    rw [turns, follow]
    cases hjob : p.jobs[i]? with
    | none =>
      have hadvance : p.advance catalog settings i = (p, .ok ()) := by rw [advance, hjob]
      rw [hadvance]
      exact .nobody hjob (ih p)
    | some job =>
      cases hstep : (job.step catalog settings p.files).result with
      | ok next =>
        have hadvance : p.advance catalog settings i =
            (⟨(job.step catalog settings p.files).files,
              p.events ++ (job.step catalog settings p.files).events, p.jobs.set i next⟩,
              .ok ()) := by
          rw [advance, hjob]
          simp only [hstep]
        rw [hadvance]
        exact .taken hjob hstep rfl rfl rfl (ih _)
      | error f =>
        have hadvance : p.advance catalog settings i =
            (⟨(job.step catalog settings p.files).files,
              p.events ++ (job.step catalog settings p.files).events, p.jobs⟩, .error f) := by
          rw [advance, hjob]
          simp only [hstep]
        rw [hadvance]
        exact .failed hjob hstep rfl rfl rfl

/-- **What happens is decided at the turns**: a catalog and settings that make no difference there
make none at all. -/
theorem follow_congr {catalog' : Catalog} {settings' : GeneratorSettings} {p : Progress}
    {schedule : Schedule}
    (h : ∀ turn ∈ p.turns catalog settings schedule,
      turn.job.step catalog' settings' turn.files = turn.job.step catalog settings turn.files) :
    p.follow catalog' settings' schedule = p.follow catalog settings schedule := by
  induction schedule generalizing p with
  | nil => rfl
  | cons i rest ih =>
    rw [turns] at h
    rw [follow, follow]
    cases hjob : p.jobs[i]? with
    | none =>
      rw [hjob] at h
      rw [advance, advance, hjob]
      exact ih h
    | some job =>
      rw [hjob] at h
      dsimp only at h
      -- the first turn comes to the same, so the turns after it are the same too
      have hadvance : p.advance catalog' settings' i = p.advance catalog settings i := by
        rw [advance, advance, hjob]
        dsimp only
        rw [h _ List.mem_cons_self]
      rw [hadvance]
      rcases hnext : p.advance catalog settings i with ⟨q, ended⟩
      rw [hnext] at h
      cases ended with
      | error f => rfl
      | ok _ => exact ih fun turn hturn => h turn (List.mem_cons_of_mem _ hturn)

namespace Follows

variable {p q : Progress} {schedule : Schedule} {turns : List Turn}
  {r : Progress × Except Failure Unit}

/-- **All goes well exactly if no turn fails.** -/
theorem ok_iff (h : Follows catalog settings p schedule turns r) :
    r.2 = .ok () ↔ ∀ turn ∈ turns, ∃ next, turn.result catalog settings = .ok next := by
  induction h with
  | done => simp
  | nobody _ _ ih => exact ih
  | taken _ hnext _ _ _ _ ih =>
    rw [ih, List.forall_mem_cons]
    constructor
    · intro hrest
      exact ⟨⟨_, hnext⟩, hrest⟩
    · intro hall
      exact hall.2
  | failed _ hf =>
    constructor
    · intro hok
      exact absurd hok (by simp)
    · intro hall
      obtain ⟨next, hnext⟩ := hall _ List.mem_cons_self
      exact absurd (hf.symm.trans hnext) (by simp)

/-- **A failure is that of a turn.** -/
theorem exists_failed {f : Failure} (h : Follows catalog settings p schedule turns r)
    (hr : r.2 = .error f) : ∃ turn ∈ turns, turn.result catalog settings = .error f := by
  induction h with
  | done => exact absurd hr (by simp)
  | nobody _ _ ih => exact ih hr
  | taken _ _ _ _ _ _ ih =>
    obtain ⟨turn, hturn, hf⟩ := ih hr
    exact ⟨turn, List.mem_cons_of_mem _ hturn, hf⟩
  | failed _ hf =>
    refine ⟨_, List.mem_cons_self, ?_⟩
    rw [← Except.error.inj hr]
    exact hf

/-- A turn that fails is the last one. -/
theorem error_of_failed {f : Failure} {turn : Turn}
    (h : Follows catalog settings p schedule turns r) (hturn : turn ∈ turns)
    (hf : turn.result catalog settings = .error f) : r.2 = .error f := by
  induction h with
  | done => exact absurd hturn List.not_mem_nil
  | nobody _ _ ih => exact ih hturn
  | taken _ hnext _ _ _ _ ih =>
    rcases List.mem_cons.1 hturn with rfl | hlater
    · exact absurd (hnext.symm.trans hf) (by simp)
    · exact ih hlater
  | failed _ hfails =>
    rw [List.mem_singleton.1 hturn] at hf
    rw [Except.error.inj (hfails.symm.trans hf)]

/-- **What is told is told at a turn**, unless it was told before. -/
theorem mem_events {event : RunEvent} (h : Follows catalog settings p schedule turns r)
    (hevent : event ∈ r.1.events) : event ∈ p.events ∨
      ∃ turn ∈ turns, event ∈ (turn.job.step catalog settings turn.files).events := by
  induction h with
  | done => exact Or.inl hevent
  | nobody _ _ ih => exact ih hevent
  | taken _ _ _ hevents _ _ ih =>
    rcases ih hevent with hbefore | ⟨turn, hturn, hmem⟩
    · rw [hevents] at hbefore
      rcases List.mem_append.1 hbefore with hbefore | hnow
      · exact Or.inl hbefore
      · exact Or.inr ⟨_, List.mem_cons_self, hnow⟩
    · exact Or.inr ⟨turn, List.mem_cons_of_mem _ hturn, hmem⟩
  | failed _ _ _ hevents =>
    rw [hevents] at hevent
    rcases List.mem_append.1 hevent with hbefore | hnow
    · exact Or.inl hbefore
    · exact Or.inr ⟨_, List.mem_cons_self, hnow⟩

/-- **What every step keeps, a run keeps**, also if it fails. It holds at the end and at every turn
on the way; the turns are found in the second half. -/
theorem kept (h : Follows catalog settings p schedule turns r) (holds : Progress → Prop)
    (hstep : ∀ (p q : Progress) (i : Nat) (job : Job), p.jobs[i]? = some job → holds p →
      q.files = (job.step catalog settings p.files).files →
      q.events = p.events ++ (job.step catalog settings p.files).events →
      ((∃ next, (job.step catalog settings p.files).result = .ok next ∧
          q.jobs = p.jobs.set i next) ∨ q.jobs = p.jobs) → holds q)
    (hp : holds p) :
    holds r.1 ∧ ∀ turn ∈ turns, ∃ p, holds p ∧ p.files = turn.files ∧
      p.jobs[turn.index]? = some turn.job := by
  induction h with
  | done => exact ⟨hp, fun _ hturn => absurd hturn List.not_mem_nil⟩
  | nobody _ _ ih => exact ih hp
  | taken hjob hnext hfiles hevents hjobs _ ih =>
    have hq := hstep _ _ _ _ hjob hp hfiles hevents (Or.inl ⟨_, hnext, hjobs⟩)
    refine ⟨(ih hq).1, fun turn hturn => ?_⟩
    rcases List.mem_cons.1 hturn with rfl | hturn
    · exact ⟨_, hp, rfl, hjob⟩
    · exact (ih hq).2 turn hturn
  | failed hjob _ hfiles hevents hjobs =>
    refine ⟨hstep _ _ _ _ hjob hp hfiles hevents (Or.inr hjobs), fun turn hturn => ?_⟩
    rw [List.mem_singleton.1 hturn]
    exact ⟨_, hp, rfl, hjob⟩

/-- A job is at no turn less far than at the beginning, and never leaves its table. -/
theorem origin (h : Follows catalog settings p schedule turns r) {turn : Turn}
    (hturn : turn ∈ turns) :
    ∃ job, p.jobs[turn.index]? = some job ∧ turn.job.remaining ≤ job.remaining ∧
      ∀ table, job.IsFor catalog settings table → turn.job.IsFor catalog settings table := by
  induction h with
  | done => exact absurd hturn List.not_mem_nil
  | nobody _ _ ih => exact ih hturn
  | @taken p q i rest job next turns r hjob hnext _ _ hjobs _ ih =>
    rcases List.mem_cons.1 hturn with rfl | hturn
    · exact ⟨job, hjob, Nat.le_refl _, fun _ hfor => hfor⟩
    · obtain ⟨middle, hmiddle, hremaining, hfor⟩ := ih hturn
      rw [hjobs] at hmiddle
      by_cases hi : i = turn.index
      · -- the job that has just moved
        subst hi
        rw [List.getElem?_set_self (List.getElem?_eq_some_iff.1 hjob).1] at hmiddle
        rw [← Option.some.inj hmiddle] at hremaining hfor
        have hadvance := Job.advances_of_step hnext
        have hnearer := Job.nearer_of_advances hadvance
        exact ⟨job, hjob, by omega, fun table hmine =>
          hfor table (Job.isFor_of_advances hadvance hmine)⟩
      · rw [List.getElem?_set_ne hi] at hmiddle
        exact ⟨middle, hmiddle, hremaining, hfor⟩
  | failed hjob =>
    rw [List.mem_singleton.1 hturn]
    exact ⟨_, hjob, Nat.le_refl _, fun _ hfor => hfor⟩

/-- **Only the last turn can fail, and each turn of a job brings it nearer to its end.** -/
theorem pairwise (h : Follows catalog settings p schedule turns r) :
    turns.Pairwise fun earlier later =>
      (∃ next, earlier.result catalog settings = .ok next) ∧
        (earlier.index = later.index → later.job.remaining ≤ earlier.job.remaining - 1) := by
  -- a later turn finds its job as a step of the first has left it, or further (`origin`)
  induction h with
  | done => exact .nil
  | nobody _ _ ih => exact ih
  | @taken p q i rest job next turns r hjob hnext _ _ hjobs hrest ih =>
    refine List.pairwise_cons.2 ⟨fun later hlater => ⟨⟨next, hnext⟩, fun hindex => ?_⟩, ih⟩
    obtain ⟨middle, hmiddle, hremaining, -⟩ := hrest.origin hlater
    rw [hjobs, ← hindex, List.getElem?_set_self (List.getElem?_eq_some_iff.1 hjob).1] at hmiddle
    have hnearer := Job.nearer_of_advances (Job.advances_of_step hnext)
    rw [← Option.some.inj hmiddle] at hremaining
    exact Nat.le_trans hremaining hnearer
  | failed => exact List.pairwise_singleton _ _

/-- No job has two turns at one stage, unless it is finished. -/
theorem unique (h : Follows catalog settings p schedule turns r) {turn other : Turn}
    (hturn : turn ∈ turns) (hother : other ∈ turns) (hindex : turn.index = other.index)
    (hremaining : turn.job.remaining = other.job.remaining) (hpositive : 0 < turn.job.remaining) :
    turn = other := by
  -- of two turns of one job the later finds it further on
  have hpairs := List.pairwise_iff_getElem.1 h.pairwise
  obtain ⟨a, ha, rfl⟩ := List.getElem_of_mem hturn
  obtain ⟨b, hb, rfl⟩ := List.getElem_of_mem hother
  rcases Nat.lt_trichotomy a b with hlt | rfl | hlt
  · have hfurther := (hpairs a b ha hb hlt).2 hindex
    omega
  · rfl
  · have hfurther := (hpairs b a hb ha hlt).2 hindex.symm
    omega

/-- **A job that has come past a stage has passed it at a turn.** In a run that goes well this
finds, for each table, the turn at which it was described, and the one at which it was renamed. -/
theorem exists_passed (h : Follows catalog settings p schedule turns r) (hr : r.2 = .ok ())
    {stage i : Nat} {job later : Job} (hjob : p.jobs[i]? = some job)
    (hlater : r.1.jobs[i]? = some later) (hbefore : stage < job.remaining)
    (hafter : later.remaining ≤ stage) :
    ∃ turn ∈ turns, turn.index = i ∧ stage < turn.job.remaining ∧
      ∃ next, turn.result catalog settings = .ok next ∧ next.remaining ≤ stage := by
  induction h generalizing job with
  | done =>
    rw [hjob] at hlater
    rw [Option.some.inj hlater] at hbefore
    omega
  | nobody _ _ ih => exact ih hr hjob hlater hbefore
  | @taken p q turn rest mover next turns r hmover hnext _ _ hjobs _ ih =>
    by_cases hi : turn = i
    · subst hi
      rw [hmover] at hjob
      rw [← Option.some.inj hjob] at hbefore
      -- this turn passes the stage, or a later one does
      by_cases hpassed : next.remaining ≤ stage
      · exact ⟨_, List.mem_cons_self, rfl, hbefore, next, hnext, hpassed⟩
      · have hmoved : q.jobs[turn]? = some next := by
          rw [hjobs, List.getElem?_set_self (List.getElem?_eq_some_iff.1 hmover).1]
        obtain ⟨other, hother, hrest⟩ := ih hr hmoved hlater (by omega)
        exact ⟨other, List.mem_cons_of_mem _ hother, hrest⟩
    · -- another job's turn: the stage is still to be passed
      have hsame : q.jobs[i]? = some job := by
        rw [hjobs, List.getElem?_set_ne hi]
        exact hjob
      obtain ⟨other, hother, hrest⟩ := ih hr hsame hlater hbefore
      exact ⟨other, List.mem_cons_of_mem _ hother, hrest⟩
  | failed => exact absurd hr (by simp)

end Follows

end Progress

/-! ## The turns of a run -/

namespace Run

variable {catalog : Catalog} {settings : GeneratorSettings} {requested : List String}
  {schedule : Schedule} {fs : FileSystem}

/-- **The turns of a run.** If the tables cannot be listed or the output directory cannot be made,
there are none. -/
def turns (catalog : Catalog) (settings : GeneratorSettings) (requested : List String)
    (schedule : Schedule) (fs : FileSystem) : List Turn :=
  match catalog.list requested settings.excludedTables, prepare settings fs with
  | .ok set, (base, .ok ()) =>
      (begun settings set base).turns catalog settings
        (schedule ++ Schedule.standard (begun settings set base).jobs.length)
  | _, _ => []

theorem follows_carriedOut (schedule : Schedule) {set : TableSet} {base : FileSystem}
    (hset : catalog.list requested settings.excludedTables = .ok set)
    (hbase : prepare settings fs = (base, .ok ())) :
    (begun settings set base).Follows catalog settings
      (schedule ++ Schedule.standard (begun settings set base).jobs.length)
      (turns catalog settings requested schedule fs)
      (carriedOut catalog settings set schedule base) := by
  rw [turns, hset, hbase, carriedOut]
  exact Progress.follows _ _ _ _

theorem exists_of_mem_turns {turn : Turn}
    (h : turn ∈ turns catalog settings requested schedule fs) :
    ∃ set base, catalog.list requested settings.excludedTables = .ok set ∧
      prepare settings fs = (base, .ok ()) := by
  unfold turns at h
  split at h
  · rename_i set base hset hbase
    exact ⟨set, base, hset, hbase⟩
  · exact absurd h List.not_mem_nil

/-- **Every turn is on a table of the run.** -/
theorem isFor_of_mem_turns {turn : Turn}
    (h : turn ∈ turns catalog settings requested schedule fs) :
    ∃ table, (tables catalog settings requested)[turn.index]? = some table ∧
      turn.job.IsFor catalog settings table := by
  obtain ⟨set, base, hset, hbase⟩ := exists_of_mem_turns h
  obtain ⟨job, hjob, -, hfor⟩ := (follows_carriedOut _ hset hbase).origin h
  rw [jobs_begun hset, List.getElem?_map] at hjob
  obtain ⟨table, htable, rfl⟩ := Option.map_eq_some_iff.1 hjob
  exact ⟨table, htable, hfor table rfl⟩

/-- **All that a run tells**: how it begins, what it knows before the jobs begin, what happens at
its turns, and how it ends. -/
theorem mem_events_scheduled {event : RunEvent}
    (h : event ∈ (scheduled catalog settings requested schedule fs).events) :
    event = .started catalog.kind ∨ event = .requested requested ∨
      (∃ set claims, event ∈ preamble settings set claims) ∨
      (∃ count, event = .completed count settings.dryRun) ∨
      ∃ turn ∈ turns catalog settings requested schedule fs,
        event ∈ (turn.job.step catalog settings turn.files).events := by
  cases hset : catalog.list requested settings.excludedTables with
  | error f =>
    rw [scheduled_of_list_error hset] at h
    rcases List.mem_cons.1 h with h | h
    · exact Or.inl h
    · exact Or.inr (Or.inl (List.mem_singleton.1 h))
  | ok set =>
    unfold scheduled at h
    rw [hset] at h
    rcases List.mem_append.1 h with h | hwork
    · rcases List.mem_cons.1 h with h | h
      · exact Or.inl h
      · exact Or.inr (Or.inl (List.mem_singleton.1 h))
    refine Or.inr (Or.inr ?_)
    unfold work at hwork
    rcases hbase : prepare settings fs with ⟨base, made⟩
    rw [hbase] at hwork
    cases made with
    | error f => exact Or.inl ⟨_, _, hwork⟩
    | ok _ =>
      have hfollows := follows_carriedOut schedule hset hbase
      rcases hcarried : carriedOut catalog settings set schedule base with ⟨p, ended⟩
      rw [hcarried] at hfollows
      have hevents : event ∈ p.events → (∃ set claims, event ∈ preamble settings set claims) ∨
          (∃ count, event = .completed count settings.dryRun) ∨ _ := fun hmem =>
        (hfollows.mem_events hmem).imp (fun hbefore => ⟨_, _, hbefore⟩) Or.inr
      unfold carriedOut begun Claim.claimed at hcarried
      dsimp only at hcarried hwork
      rw [hcarried] at hwork
      cases ended with
      | error f => exact hevents hwork
      | ok _ =>
        rcases List.mem_append.1 hwork with hmem | hlast
        · exact hevents hmem
        · exact Or.inr (Or.inl ⟨_, List.mem_singleton.1 hlast⟩)

/-- **What a run leads to is decided by its listing and at its turns.** Two catalogs that answer
these alike cannot be told apart by the run, however they differ on other tables. -/
theorem scheduled_congr {catalog' : Catalog} {excluded : List String}
    (hkind : catalog'.kind = catalog.kind)
    (hlist : catalog'.list requested excluded = catalog.list requested settings.excludedTables)
    (h : ∀ turn ∈ turns catalog settings requested schedule fs,
      turn.job.step catalog' { settings with excludedTables := excluded } turn.files =
        turn.job.step catalog settings turn.files) :
    scheduled catalog' { settings with excludedTables := excluded } requested schedule fs =
      scheduled catalog settings requested schedule fs := by
  -- excluded tables are handed to the listing and read by nothing behind it
  unfold scheduled
  dsimp only
  rw [hkind, hlist]
  cases hset : catalog.list requested settings.excludedTables with
  | error f => rfl
  | ok set =>
    rw [turns, hset] at h
    have hsame : prepare { settings with excludedTables := excluded } fs = prepare settings fs :=
      rfl
    dsimp only
    unfold work
    rw [hsame]
    rcases hbase : prepare settings fs with ⟨base, made⟩
    rw [hbase] at h
    cases made with
    | error f => rfl
    | ok _ =>
      have hfollow := Progress.follow_congr h
      dsimp only
      unfold begun Claim.claimed at hfollow
      dsimp only at hfollow
      rw [show preamble { settings with excludedTables := excluded } set
        (Claim.decide settings.fileSuffix set.found) =
          preamble settings set (Claim.decide settings.fileSuffix set.found) from rfl, hfollow]
      rfl

end Run

/-! ## Dry runs -/

/-- A job that has nothing to write. In a dry run all jobs are, since they go from waiting to
finished at once. -/
def Job.IsIdle : Job → Prop
  | waiting _ | finished _ => True
  | rendered _ | staged _ => False

theorem Job.IsIdle.step {job : Job} (h : job.IsIdle) (catalog : Catalog)
    {settings : GeneratorSettings} (hdry : settings.dryRun = true) (fs : FileSystem) :
    (job.step catalog settings fs).files = fs ∧
      ∀ next, (job.step catalog settings fs).result = .ok next → next.IsIdle := by
  cases job with
  | waiting table =>
    rw [Job.step]
    cases hdescribe : catalog.describe table with
    | error f =>
      rw [Job.render_of_error hdescribe]
      exact ⟨rfl, fun next hnext => absurd hnext (by simp)⟩
    | ok t =>
      have hrender : (Job.render catalog settings table fs).files = fs ∧ _ :=
        Job.render_of_dry hdry hdescribe
      obtain ⟨hfiles, hresult⟩ := hrender
      refine ⟨hfiles, fun next hnext => ?_⟩
      rw [← Except.ok.inj (hresult.symm.trans hnext)]
      trivial
  | finished done =>
    refine ⟨rfl, fun next hnext => ?_⟩
    rw [← Except.ok.inj hnext]
    trivial
  | rendered file => exact h.elim
  | staged file => exact h.elim

/-- **A dry run touches nothing**, whether it fails or not. -/
theorem Progress.Follows.dry {catalog : Catalog} {settings : GeneratorSettings} {p : Progress}
    {schedule : Schedule} {turns : List Turn} {r : Progress × Except Failure Unit}
    (h : Follows catalog settings p schedule turns r) (hdry : settings.dryRun = true)
    (hp : ∀ job ∈ p.jobs, job.IsIdle) :
    r.1.files = p.files ∧ ∀ turn ∈ turns, turn.files = p.files ∧ turn.job.IsIdle := by
  have hkept := h.kept (fun q => q.files = p.files ∧ ∀ job ∈ q.jobs, job.IsIdle) ?_
    ⟨rfl, hp⟩
  · refine ⟨hkept.1.1, fun turn hturn => ?_⟩
    obtain ⟨q, ⟨hfiles, hidle⟩, hsame, hjob⟩ := hkept.2 turn hturn
    exact ⟨hsame.symm.trans hfiles, hidle _ (List.mem_of_getElem? hjob)⟩
  · rintro a b i job hjob ⟨hfiles, hidle⟩ hbfiles - hjobs
    have hstep := (hidle _ (List.mem_of_getElem? hjob)).step catalog hdry a.files
    refine ⟨hbfiles.trans (hstep.1.trans hfiles), ?_⟩
    rcases hjobs with ⟨next, hnext, hjobs⟩ | hjobs
    · rw [hjobs]
      intro other hother
      rcases List.mem_or_eq_of_mem_set hother with hother | rfl
      · exact hidle other hother
      · exact hstep.2 _ hnext
    · rw [hjobs]
      exact hidle

namespace Run

variable {catalog : Catalog} {settings : GeneratorSettings} {requested : List String}
  {schedule : Schedule} {fs : FileSystem}

theorem prepare_of_dry (hdry : settings.dryRun = true) (fs : FileSystem) :
    prepare settings fs = (fs, .ok ()) := by
  rw [prepare, hdry, if_pos rfl]

theorem idle_of_mem_jobs_begun {set : TableSet} {base : FileSystem} {job : Job}
    (h : job ∈ (begun settings set base).jobs) : job.IsIdle := by
  obtain ⟨table, -, rfl⟩ := List.mem_map.1 h
  trivial

theorem idle_of_mem_turns (hdry : settings.dryRun = true) {turn : Turn}
    (h : turn ∈ turns catalog settings requested schedule fs) :
    turn.files = fs ∧ turn.job.IsIdle := by
  obtain ⟨set, base, hset, hbase⟩ := exists_of_mem_turns h
  rw [prepare_of_dry hdry] at hbase
  obtain ⟨rfl, -⟩ := Prod.mk.inj hbase
  exact ((follows_carriedOut _ hset (prepare_of_dry hdry fs)).dry hdry
    fun _ => idle_of_mem_jobs_begun).2 turn h

end Run

end CatalogEntities
