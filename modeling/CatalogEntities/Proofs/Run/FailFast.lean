import CatalogEntities.Proofs.Catalog
import CatalogEntities.Proofs.Run.Published
import CatalogEntities.Proofs.Run.Turn

/-!
# `Proofs/Run/FailFast.lean` — a run fails exactly if one of its steps does

The jobs of a run overlap, the first failure ends it, and which failure that is depends on the order
of the steps. Two things hold in every order. No failure is lost: a run goes well only if every step
that it needs succeeds, and a failure that it reports is one that it met. And no failure is met for
nothing: a table that gets no file has no turn, so that a catalog that could not describe it makes
no difference.

A job takes the turn of each of its stages at most once (`Follows.unique`). So if some turn of a
stage succeeded, all its turns did, which is what makes success a matter of steps that succeeded
rather than of steps that did not fail.

The difference matters to a reader. That no step failed is true of a run that took none; `Succeeds`
names the steps that a run has to take, table by table, and says that they were taken.
-/

set_option autoImplicit false

namespace CatalogEntities.Run

variable {catalog : Catalog} {settings : GeneratorSettings} {requested : List String}
  {schedule : Schedule} {fs base : FileSystem} {set : TableSet} {f : Failure}

/-! ## Making the output directory -/

theorem prepare_eq_ok_iff (hwrites : settings.dryRun = false) :
    prepare settings fs = (base, .ok ()) ↔
      fs.makeDirectories settings.outputDir = (base, .ok ()) := by
  rw [prepare, hwrites]
  rcases hmade : fs.makeDirectories settings.outputDir with ⟨made, ended⟩
  cases ended with
  | ok _ => simp
  | error fault => simp

theorem prepare_ok_iff : (∃ base, prepare settings fs = (base, .ok ())) ↔
    settings.dryRun = true ∨ ∃ base, fs.makeDirectories settings.outputDir = (base, .ok ()) := by
  cases hdry : settings.dryRun with
  | true => simp [prepare_of_dry hdry]
  | false => simp [prepare_eq_ok_iff hdry]

/-- A preparation that fails is a real one, and the directory could not be made. -/
theorem prepare_eq_error (h : prepare settings fs = (base, .error f)) :
    ∃ fault, settings.dryRun = false ∧
      fs.makeDirectories settings.outputDir = (base, .error fault) ∧
      f = .fileWrite settings.outputDir fault := by
  unfold prepare at h
  cases hdry : settings.dryRun with
  | true =>
    rw [hdry] at h
    exact absurd (Prod.mk.inj h).2 (by simp)
  | false =>
    rw [hdry] at h
    rcases hmade : fs.makeDirectories settings.outputDir with ⟨made, ended⟩
    rw [hmade] at h
    cases ended with
    | ok _ => exact absurd (Prod.mk.inj h).2 (by simp)
    | error fault =>
      obtain ⟨rfl, hf⟩ := Prod.mk.inj h
      exact ⟨fault, rfl, rfl, (Except.error.inj hf).symm⟩

/-! ## How a run ends -/

theorem ok_iff_of_prepare (hset : catalog.list requested settings.excludedTables = .ok set)
    (hbase : prepare settings fs = (base, .ok ())) :
    (∃ o, (scheduled catalog settings requested schedule fs).outcome = .ok o) ↔
      (carriedOut catalog settings set schedule base).2 = .ok () := by
  rcases hcarried : carriedOut catalog settings set schedule base with ⟨p, ended⟩
  cases ended with
  | ok _ => simp [(scheduled_of_ok hset hbase hcarried).2]
  | error f => simp [(scheduled_of_error hset hbase hcarried).2]

/-- **A step of a run that fails**: the listing, the making of the directory, or a turn on one of
the tables. -/
inductive FailedStep (catalog : Catalog) (settings : GeneratorSettings) (requested : List String)
    (schedule : Schedule) (fs : FileSystem) : Failure → Prop
  | listing {f : Failure} (h : catalog.list requested settings.excludedTables = .error f) :
      FailedStep catalog settings requested schedule fs f
  | directory {base : FileSystem} {fault : SystemFault} (hwrites : settings.dryRun = false)
      (h : fs.makeDirectories settings.outputDir = (base, .error fault)) :
      FailedStep catalog settings requested schedule fs (.fileWrite settings.outputDir fault)
  | turn {turn : Turn} {table : String} {f : Failure}
      (hturn : turn ∈ turns catalog settings requested schedule fs)
      (htable : (tables catalog settings requested)[turn.index]? = some table)
      (hjob : turn.job.IsFor catalog settings table)
      (h : turn.job.Fails catalog settings turn.files f) :
      FailedStep catalog settings requested schedule fs f

/-- **A failure that is reported was met.** Of several steps that fail in different orders any may
be the one; none is made up, and none is reported under another's name. -/
theorem failedStep_of_error
    (h : (scheduled catalog settings requested schedule fs).outcome = .error f) :
    FailedStep catalog settings requested schedule fs f := by
  cases hset : catalog.list requested settings.excludedTables with
  | error g =>
    rw [scheduled_of_list_error hset] at h
    rw [← Except.error.inj h]
    exact .listing hset
  | ok set =>
    rcases hbase : prepare settings fs with ⟨base, made⟩
    cases made with
    | error g =>
      rw [(scheduled_of_prepare_error hset hbase).2] at h
      obtain ⟨fault, hwrites, hmade, hg⟩ := prepare_eq_error hbase
      rw [← Except.error.inj h, hg]
      exact .directory hwrites hmade
    | ok _ =>
      rcases hcarried : carriedOut catalog settings set schedule base with ⟨p, ended⟩
      cases ended with
      | ok _ =>
        rw [(scheduled_of_ok hset hbase hcarried).2] at h
        exact absurd h (by simp)
      | error g =>
        rw [(scheduled_of_error hset hbase hcarried).2] at h
        have hfollows := follows_carriedOut schedule hset hbase
        rw [hcarried] at hfollows
        obtain ⟨turn, hturn, hfails⟩ := hfollows.exists_failed rfl
        obtain ⟨table, htable, hjob⟩ := isFor_of_mem_turns hturn
        rw [← Except.error.inj h]
        exact .turn hturn htable hjob (Job.fails_of_step hfails)

/-- A turn that fails ends the run, with its own failure. -/
theorem outcome_of_fails {turn : Turn}
    (hturn : turn ∈ turns catalog settings requested schedule fs)
    (h : turn.job.Fails catalog settings turn.files f) :
    (scheduled catalog settings requested schedule fs).outcome = .error f := by
  obtain ⟨set, base, hset, hbase⟩ := exists_of_mem_turns hturn
  have hended := (follows_carriedOut schedule hset hbase).error_of_failed hturn
    (Job.step_of_fails h)
  rcases hcarried : carriedOut catalog settings set schedule base with ⟨p, ended⟩
  rw [hcarried] at hended
  obtain rfl : ended = .error f := hended
  exact (scheduled_of_error hset hbase hcarried).2

/-! ## What a run needs -/

/-- **An entity file was written in a run**: at one turn its temporary file, at another its
renaming. -/
structure Written (settings : GeneratorSettings) (turns : List Turn) (i : Nat)
    (file : EntityFile) : Prop where
  /-- The write succeeds with the files as the turn finds them, whatever other jobs have done. -/
  staged : ∃ fs after, ⟨i, .rendered file, fs⟩ ∈ turns ∧
    fs.writeFile (Job.temporaryPath (Job.path settings file)) file.contents.toByteArray = .ok after
  published : ∃ fs after, ⟨i, .staged file, fs⟩ ∈ turns ∧
    fs.renameFile (Job.temporaryPath (Job.path settings file)) (Job.path settings file) = .ok after

/-- **Every step that a run needs succeeds.** A dry run needs the listing and the descriptions. -/
structure Succeeds (catalog : Catalog) (settings : GeneratorSettings) (requested : List String)
    (schedule : Schedule) (fs : FileSystem) : Prop where
  listed : ∃ set, catalog.list requested settings.excludedTables = .ok set
  /-- The output directory is made, or was there already. -/
  directory : settings.dryRun = true ∨
    ∃ base, fs.makeDirectories settings.outputDir = (base, .ok ())
  /-- Every table that gets a file is described, and its file is written. -/
  tables : ∀ (i : Nat) (table : String), (tables catalog settings requested)[i]? = some table →
    ∃ file, Renders catalog settings table file ∧ (settings.dryRun = true ∨
      Written settings (turns catalog settings requested schedule fs) i file)

section

variable (hset : catalog.list requested settings.excludedTables = .ok set)
  (hbase : prepare settings fs = (base, .ok ()))
include hset hbase

/-- A table of a run that goes well passes each stage at a turn. -/
theorem exists_passed_of_ok {p : Progress}
    (hcarried : carriedOut catalog settings set schedule base = (p, .ok ())) {i : Nat}
    {table : String} (htable : (tables catalog settings requested)[i]? = some table) (stage : Nat)
    (hstage : stage < 3) :
    ∃ job next fs' after, ⟨i, job, fs'⟩ ∈ turns catalog settings requested schedule fs ∧
      job.IsFor catalog settings table ∧ job.Advances catalog settings fs' next after ∧
      stage < job.remaining ∧ next.remaining ≤ stage := by
  have hfollows := follows_carriedOut schedule hset hbase
  rw [hcarried] at hfollows
  have hjobs := jobs_begun hset base
  have hwaiting : (begun settings set base).jobs[i]? = some (.waiting table) := by
    rw [hjobs, List.getElem?_map, htable, Option.map_some]
  -- at the end the job is finished, and has nothing left to do
  obtain ⟨last, hlast⟩ : ∃ last, p.jobs[i]? = some last := by
    have hi : i < p.jobs.length :=
      length_of_follow hcarried ▸ (List.getElem?_eq_some_iff.1 hwaiting).1
    exact ⟨_, List.getElem?_eq_getElem hi⟩
  obtain ⟨file, -, rfl⟩ := finished_of_follow hjobs hcarried htable hlast
  obtain ⟨⟨j, job, fs'⟩, hturn, rfl, hbefore, next, hnext, hafter⟩ :=
    hfollows.exists_passed rfl hwaiting hlast hstage (Nat.zero_le stage)
  obtain ⟨other, hother, hjob⟩ := isFor_of_mem_turns hturn
  rw [Option.some.inj (hother.symm.trans htable)] at hjob
  exact ⟨job, next, fs', _, hturn, hjob, Job.advances_of_step hnext, hbefore, hafter⟩

/-- **In a run that goes well every entity file was written.** -/
theorem written_of_ok {p : Progress}
    (hcarried : carriedOut catalog settings set schedule base = (p, .ok ()))
    (hwrites : settings.dryRun = false) {i : Nat} {table : String} {file : EntityFile}
    (htable : (tables catalog settings requested)[i]? = some table)
    (hfile : Renders catalog settings table file) :
    Written settings (turns catalog settings requested schedule fs) i file := by
  constructor
  · -- the stage at which one step is left is passed by the writing of the temporary file
    obtain ⟨job, next, fs', after, hturn, hjob, hadvance, hbefore, hafter⟩ :=
      exists_passed_of_ok hset hbase hcarried htable 1 (by decide)
    cases hadvance with
    | described => exact absurd hafter (by simp [Job.remaining])
    | foreseen hdry => exact absurd (hdry.symm.trans hwrites) (by simp)
    | written hwrite =>
      rw [hfile.unique hjob]
      exact ⟨_, _, hturn, hwrite⟩
    | renamed => exact absurd hbefore (by simp [Job.remaining])
    | rested => exact absurd hbefore (by simp [Job.remaining])
  · -- the last stage is passed by the renaming
    obtain ⟨job, next, fs', after, hturn, hjob, hadvance, hbefore, hafter⟩ :=
      exists_passed_of_ok hset hbase hcarried htable 0 (by decide)
    cases hadvance with
    | described => exact absurd hafter (by simp [Job.remaining])
    | foreseen hdry => exact absurd (hdry.symm.trans hwrites) (by simp)
    | written => exact absurd hafter (by simp [Job.remaining])
    | renamed hrename =>
      rw [hfile.unique hjob]
      exact ⟨_, _, hturn, hrename⟩
    | rested => exact absurd hbefore (by simp [Job.remaining])

theorem unique_of_mem_turns {turn other : Turn}
    (hturn : turn ∈ turns catalog settings requested schedule fs)
    (hother : other ∈ turns catalog settings requested schedule fs)
    (hindex : turn.index = other.index) (hremaining : turn.job.remaining = other.job.remaining)
    (hpositive : 0 < turn.job.remaining) : turn = other :=
  (follows_carriedOut schedule hset hbase).unique hturn hother hindex hremaining hpositive

end

/-- **No turn fails** where every step that the run needs succeeds. -/
theorem result_of_succeeds (h : Succeeds catalog settings requested schedule fs) {turn : Turn}
    (hturn : turn ∈ turns catalog settings requested schedule fs) :
    ∃ next, turn.result catalog settings = .ok next := by
  obtain ⟨set, base, hset, hbase⟩ := exists_of_mem_turns hturn
  obtain ⟨table, htable, hjob⟩ := isFor_of_mem_turns hturn
  obtain ⟨file, hfile, hwritten⟩ := h.tables _ _ htable
  obtain ⟨i, job, now⟩ := turn
  -- a job that has something to write is no job of a dry run
  have hwrites : ¬ job.IsIdle → Written settings (turns catalog settings requested schedule fs) i
      file := by
    intro hbusy
    exact hwritten.resolve_left fun hdry => hbusy (idle_of_mem_turns hdry hturn).2
  -- at each stage the step that succeeded at some turn of it is the step of this turn
  have hadvances : ∃ next after, job.Advances catalog settings now next after := by
    cases job with
    | waiting asked =>
      obtain ⟨t, hdescribe, -⟩ := hfile
      have hasked : asked = table := hjob
      rw [← hasked] at hdescribe
      cases hdry : settings.dryRun with
      | true => exact ⟨_, _, .foreseen hdry hdescribe⟩
      | false => exact ⟨_, _, .described hdry hdescribe⟩
    | rendered other =>
      -- the turn at which the temporary file was written is this one
      obtain ⟨earlier, after, hthen, hwrite⟩ := (hwrites id).staged
      rw [hfile.unique hjob] at hthen hwrite
      have hsame := unique_of_mem_turns hset hbase hturn hthen rfl rfl (by simp [Job.remaining])
      rw [(Turn.mk.inj hsame).2.2]
      exact ⟨_, _, .written hwrite⟩
    | staged other =>
      obtain ⟨earlier, after, hthen, hrename⟩ := (hwrites id).published
      rw [hfile.unique hjob] at hthen hrename
      have hsame := unique_of_mem_turns hset hbase hturn hthen rfl rfl (by simp [Job.remaining])
      rw [(Turn.mk.inj hsame).2.2]
      exact ⟨_, _, .renamed hrename⟩
    | finished done => exact ⟨_, _, .rested⟩
  obtain ⟨next, after, hadvance⟩ := hadvances
  exact ⟨next, Job.step_of_advances hadvance⟩

/-- **A run goes well exactly if every step that it needs succeeds.** From left to right a run that
ends well has passed every stage of every job; from right to left no turn can fail, and what does
not fail goes well. -/
theorem ok_iff_succeeds :
    (∃ o, (scheduled catalog settings requested schedule fs).outcome = .ok o) ↔
      Succeeds catalog settings requested schedule fs := by
  constructor
  · rintro ⟨o, hrun⟩
    obtain ⟨set, base, p, hset, hbase, hcarried, -, -⟩ := scheduled_eq_ok hrun
    refine ⟨⟨set, hset⟩, prepare_ok_iff.1 ⟨base, hbase⟩, fun i table htable => ?_⟩
    obtain ⟨_, files, -, hfiles, -⟩ := reported_of_ok hrun
    obtain ⟨file, -, hfile⟩ := exists_right_of_mem hfiles (List.mem_of_getElem? htable)
    refine ⟨file, hfile, ?_⟩
    cases hdry : settings.dryRun with
    | true => exact Or.inl rfl
    | false => exact Or.inr (written_of_ok hset hbase hcarried hdry htable hfile)
  · intro h
    obtain ⟨set, hset⟩ := h.listed
    obtain ⟨base, hbase⟩ := prepare_ok_iff.2 h.directory
    rw [ok_iff_of_prepare hset hbase]
    exact (follows_carriedOut schedule hset hbase).ok_iff.2 fun turn hturn =>
      result_of_succeeds h hturn

/-- What is ready for a request can be told before its run, and then does not depend on the order
of the steps. -/
theorem Separate.ok_iff_ready (h : Separate catalog settings requested) :
    (∃ o, (scheduled catalog settings requested schedule fs).outcome = .ok o) ↔
      ∃ set base, catalog.list requested settings.excludedTables = .ok set ∧
        fs.makeDirectories settings.outputDir = (base, .ok ()) ∧
        ∀ table ∈ tables catalog settings requested,
          ∃ file, Ready catalog settings base table file := by
  constructor
  · rintro ⟨o, hrun⟩
    obtain ⟨set, base, files, hset, hbase, hcompletes, -⟩ := completes_of_ok h hrun
    exact ⟨set, base, hset, (prepare_eq_ok_iff h.writes).1 hbase, hcompletes.ready (.refl base)⟩
  · rintro ⟨set, base, hset, hmade, hready⟩
    exact exists_ok h hset ((prepare_eq_ok_iff h.writes).2 hmade) hready schedule

/-! ## Tables that get no file -/

/-- A table that is skipped, or excluded and not asked for, gets no file. -/
theorem not_mem_tables {existing : List String} (h : catalog.Lists existing)
    (hset : catalog.list requested settings.excludedTables = .ok set) {table : String}
    (htable : table ∈ Claim.skipped settings.fileSuffix set.found ∨
      table ∈ settings.excludedTables ∧ table ∉ requested) :
    table ∉ tables catalog settings requested := by
  obtain rfl := h.select _ _ _ hset
  rw [tables_of_list hset]
  intro hclaimed
  rcases htable with hskipped | ⟨hexcluded, hunasked⟩
  · have hnodup := (h.ascending.sublist
      (TableSet.found_select_sublist existing requested settings.excludedTables)).imp
        fun hlt => String.ne_of_lt hlt
    have hclaims := (Claim.perm_claimed_skipped settings.fileSuffix _).nodup_iff.2 hnodup
    exact (List.nodup_append.1 hclaims).2.2 _ hclaimed _ hskipped rfl
  · -- what is excluded is left out of the listing, unless the request names it
    have hfound := (Claim.claimed_sublist _ _).subset hclaimed
    by_cases hnil : requested = []
    · subst hnil
      exact (TableSet.mem_found_select_nil.1 hfound).2 hexcluded
    · exact hunasked ((TableSet.mem_found_select hnil).1 hfound).2

/-- **How a catalog describes a table that gets no file makes no difference**, not even whether it
can. Such a table is not described and thrown away; no turn is on it. -/
theorem scheduled_describe {describe : String → Except Failure Table}
    (h : ∀ table ∈ tables catalog settings requested, describe table = catalog.describe table) :
    scheduled { catalog with describe } settings requested schedule fs =
      scheduled catalog settings requested schedule fs := by
  refine scheduled_congr rfl rfl fun turn hturn => ?_
  obtain ⟨table, htable, hjob⟩ := isFor_of_mem_turns hturn
  obtain ⟨i, job, now⟩ := turn
  cases job with
  | waiting asked =>
    have hasked : asked = table := hjob
    show Job.render _ _ asked now = Job.render catalog settings asked now
    unfold Job.render
    rw [hasked]
    dsimp only
    rw [h table (List.mem_of_getElem? htable)]
  | rendered file => rfl
  | staged file => rfl
  | finished done => rfl

/-- **A query that fails a run was refused**, and was about a table that gets a file. -/
theorem refused_of_catalogQuery {s : Session} (hs : s.Backs catalog) {query : TableQuery}
    {table : String} {fault : DatabaseFault}
    (h : (scheduled catalog settings requested schedule fs).outcome =
      .error (.catalogQuery query table fault)) :
    table ∈ tables catalog settings requested ∧
      s.ask (.describe query s.schema table) () = .error fault := by
  cases failedStep_of_error h with
  | listing hlist =>
    rw [hs.list] at hlist
    obtain ⟨_, hconnection⟩ := Session.fault_of_list hlist
    exact absurd hconnection (by simp)
  | @turn turn other _ hturn htable hjob hfails =>
    obtain ⟨i, job, now⟩ := turn
    cases hfails with
    | undescribed hdescribe =>
      have hasked : _ = other := hjob
      rw [hasked] at hdescribe
      obtain ⟨query', fault', hsame, hrefused⟩ := hs.refused _ _ hdescribe
      obtain ⟨rfl, rfl, rfl⟩ := Failure.catalogQuery.inj hsame
      exact ⟨List.mem_of_getElem? htable, hrefused⟩

/-! ## All together -/

/-- **A run fails fast**: as soon as a step fails, with the failure of that step, and never
otherwise. The clauses say when it goes well, where its failures come from, what has no part in it,
and what a failed listing leaves. -/
structure FailsFast (catalog : Catalog) (settings : GeneratorSettings) (requested : List String)
    (schedule : Schedule) (fs : FileSystem) : Prop where
  /-- It goes well exactly if every step that it needs succeeds. -/
  succeeds : (∃ o, (scheduled catalog settings requested schedule fs).outcome = .ok o) ↔
    Succeeds catalog settings requested schedule fs
  /-- Its failure is that of a step. -/
  fails : ∀ f, (scheduled catalog settings requested schedule fs).outcome = .error f →
    FailedStep catalog settings requested schedule fs f
  /-- Over a database, a failure that names a query and a table is the server's answer to this query
  about this table. -/
  refused : ∀ s : Session, s.Backs catalog → ∀ query table fault,
    (scheduled catalog settings requested schedule fs).outcome =
        .error (.catalogQuery query table fault) →
      table ∈ tables catalog settings requested ∧
        s.ask (.describe query s.schema table) () = .error fault
  /-- If the files of the request stand apart, success can be told in advance: from the listing, the
  output directory and the places of the files, and then for every order of the steps at once. -/
  ready : Separate catalog settings requested →
    ((∃ o, (scheduled catalog settings requested schedule fs).outcome = .ok o) ↔
      ∃ set base, catalog.list requested settings.excludedTables = .ok set ∧
        fs.makeDirectories settings.outputDir = (base, .ok ()) ∧
        ∀ table ∈ tables catalog settings requested,
          ∃ file, Ready catalog settings base table file)
  /-- Every turn is on a table that gets a file, and is given to its own entity. -/
  turns : ∀ turn ∈ turns catalog settings requested schedule fs,
    ∃ table, (tables catalog settings requested)[turn.index]? = some table ∧
      turn.job.IsFor catalog settings table
  /-- Colliding tables get none, nor do excluded ones that were not asked for. -/
  left : ∀ existing set table, catalog.Lists existing →
    catalog.list requested settings.excludedTables = .ok set →
    (table ∈ Claim.skipped settings.fileSuffix set.found ∨
      table ∈ settings.excludedTables ∧ table ∉ requested) →
    table ∉ tables catalog settings requested
  /-- What a catalog says of any other table makes no difference. -/
  undisturbed : ∀ describe,
    (∀ table ∈ tables catalog settings requested, describe table = catalog.describe table) →
    scheduled { catalog with describe } settings requested schedule fs =
      scheduled catalog settings requested schedule fs
  /-- Where the listing fails nothing has been touched. -/
  unlisted : ∀ f, catalog.list requested settings.excludedTables = .error f →
    (scheduled catalog settings requested schedule fs).files = fs ∧
      (scheduled catalog settings requested schedule fs).outcome = .error f

/-- **Every run fails fast**, whatever fails and in whatever order the steps are taken. -/
theorem failsFast (catalog : Catalog) (settings : GeneratorSettings) (requested : List String)
    (schedule : Schedule) (fs : FileSystem) :
    FailsFast catalog settings requested schedule fs where
  succeeds := ok_iff_succeeds
  fails _ := failedStep_of_error
  refused _ hs _ _ _ := refused_of_catalogQuery hs
  ready h := h.ok_iff_ready
  turns _ := isFor_of_mem_turns
  left _ _ _ h hset := not_mem_tables h hset
  undisturbed _ := scheduled_describe
  unlisted f h := by
    rw [scheduled_of_list_error h]
    exact ⟨rfl, rfl⟩

end CatalogEntities.Run
