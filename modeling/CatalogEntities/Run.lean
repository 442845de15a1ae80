import CatalogEntities.Database.Session
import CatalogEntities.Run.Claim
import CatalogEntities.Run.Job

/-!
# `Run.lean` — from a request to entity files

A run lists the tables of a request, decides which of them get a file, makes the output directory
and carries out one job for each of these tables. The first failure ends it; what was written by
then stays.

The jobs do not wait for one another. In which order their steps are taken is given by a
**schedule**, a list of job numbers: each entry takes the next step of that job. A schedule that
leaves jobs unfinished is continued in the standard order, which describes all tables first and
then writes one file after the other. So every order of all steps is a schedule, and every schedule
finishes all jobs unless one of them fails.

That is how the tasks of the generator's `run`, which wait for one another only at the end, are said
here: what is proved for every schedule holds in whatever order the tasks happen to get on. The
program itself is the run with the empty schedule, one order among the others.
-/

set_option autoImplicit false

namespace CatalogEntities

/-- An order of steps: the numbers of the jobs whose turn it is. Numbers may come as often as they
like and need not belong to a job, so every list of numbers is a schedule and none is invalid. -/
abbrev Schedule := List Nat

/-- Each of `count` jobs once, in order. -/
def Schedule.round (count : Nat) : Schedule := List.range count

/-- The standard order: all jobs begin, then each is brought to its end. It gives every job three
turns, which is what a job needs from wherever it is. -/
def Schedule.standard (count : Nat) : Schedule :=
  Schedule.round count ++ (List.range count).flatMap fun i => [i, i]

/-- **How far a run is**: the files as they are, what has happened, and the jobs. Jobs keep their
places in the list, by which a schedule knows them and in whose order they are reported. -/
structure Progress where
  files : FileSystem
  events : List RunEvent
  jobs : List Job

namespace Progress

/-- **Takes the next step of one job.** A number that belongs to no job takes none. If the step
fails, the job stays as it was, and what the step has done to the files and told stays as well. -/
def advance (catalog : Catalog) (settings : GeneratorSettings) (p : Progress) (i : Nat) :
    Progress × Except Failure Unit :=
  match p.jobs[i]? with
  | none => (p, .ok ())
  | some job =>
      let s := job.step catalog settings p.files
      -- both answers keep the files and events of the step, a failure too
      match s.result with
      | .ok job => (⟨s.files, p.events ++ s.events, p.jobs.set i job⟩, .ok ())
      | .error f => (⟨s.files, p.events ++ s.events, p.jobs⟩, .error f)

/-- **Takes steps in the order of a schedule**, up to the first failure. Nothing is undone then: the
other jobs are left where they are, with their temporary files if they have written any. -/
def follow (catalog : Catalog) (settings : GeneratorSettings) :
    Progress → Schedule → Progress × Except Failure Unit
  | p, [] => (p, .ok ())
  | p, i :: rest =>
      match p.advance catalog settings i with
      | (p, .ok ()) => follow catalog settings p rest
      | (p, .error f) => (p, .error f)

end Progress

/-- **What a run leads to**: the files as it leaves them, what happened, and what it reports. All
three are there for a run that fails, so that what it leaves behind can be spoken of. -/
structure RunResult where
  files : FileSystem
  events : List RunEvent
  outcome : Except Failure Outcome

namespace Run

/-- Makes the output directory; a dry run needs none. A refusal counts as one to write, under the
path of the directory, and directories that were made on the way to it stay. -/
def prepare (settings : GeneratorSettings) (fs : FileSystem) :
    FileSystem × Except Failure Unit :=
  if settings.dryRun then (fs, .ok ())
  else
    match fs.makeDirectories settings.outputDir with
    | (fs, .ok ()) => (fs, .ok ())
    | (fs, .error fault) => (fs, .error (.fileWrite settings.outputDir fault))

/-- What is told about the tables before the work on them begins: the names that do not exist, how
many tables there are, and those that get no file. -/
def preamble (settings : GeneratorSettings) (set : TableSet) (claims : List Claim) :
    List RunEvent :=
  (if set.missing.isEmpty then [] else [.notFound set.missing]) ++ [.found set.found.length]
    ++ claims.filterMap fun
      | .granted _ => none
      | .refused table owner =>
          some (.skipped table (Naming.fileName table settings.fileSuffix) owner)

/-- What is reported when all jobs are done. Files stand in the order of the listing, whichever was
written first. -/
def outcome (settings : GeneratorSettings) (set : TableSet) (claims : List Claim)
    (jobs : List Job) : Outcome :=
  ⟨settings.dryRun, jobs.filterMap Job.result?, set.missing, claims.filterMap Claim.refused?⟩

/-- The part of a run behind the listing: claims, the output directory, the jobs, the report. The
claims are decided before anything is written, so a failure to make the directory comes after all
that is told of them. -/
def work (catalog : Catalog) (settings : GeneratorSettings) (schedule : Schedule)
    (set : TableSet) (fs : FileSystem) : RunResult :=
  let claims := Claim.decide settings.fileSuffix set.found
  let before := preamble settings set claims
  match prepare settings fs with
  | (fs, .error f) => ⟨fs, before, .error f⟩
  | (fs, .ok ()) =>
      let jobs := (claims.filterMap Claim.granted?).map Job.waiting
      -- whatever the schedule leaves undone, the standard order behind it does
      match Progress.follow catalog settings ⟨fs, before, jobs⟩
          (schedule ++ Schedule.standard jobs.length) with
      | (p, .error f) => ⟨p.files, p.events, .error f⟩
      | (p, .ok ()) =>
          let outcome := outcome settings set claims p.jobs
          ⟨p.files, p.events ++ [.completed outcome.files.length settings.dryRun], .ok outcome⟩

/-- **A run**, with its steps in the order of a schedule. Where the listing fails nothing else is
done; the exclusions are handed to the catalog, which alone decides what they mean. -/
def scheduled (catalog : Catalog) (settings : GeneratorSettings) (requested : List String)
    (schedule : Schedule) (fs : FileSystem) : RunResult :=
  let before := [RunEvent.started catalog.kind, .requested requested]
  match catalog.list requested settings.excludedTables with
  | .error f => ⟨fs, before, .error f⟩
  | .ok set =>
      let r := work catalog settings schedule set fs
      { r with events := before ++ r.events }

/-- **A run** in the standard order. -/
def standard (catalog : Catalog) (settings : GeneratorSettings) (requested : List String)
    (fs : FileSystem) : RunResult :=
  scheduled catalog settings requested [] fs

/-- **A run over the database of some settings** (`generate`), with its steps in the order of a
schedule: the session is opened, the run goes over the catalog of the session, and the session is
closed whether the run succeeds or not. Where no session can be opened, no file is touched. -/
def overDatabase (network : Network) (settings : Settings) (requested : List String)
    (schedule : Schedule) (fs : FileSystem) : RunResult :=
  let before := (Session.connectLog network settings.database).map RunEvent.noted
  match Session.connect network settings.database with
  | .error f => ⟨fs, before, .error f⟩
  | .ok session =>
      let r := scheduled session.catalog settings.generator requested schedule fs
      { r with events := before ++ r.events ++ [.noted Session.farewell] }

end Run

end CatalogEntities
