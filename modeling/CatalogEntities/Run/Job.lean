import CatalogEntities.Catalog
import CatalogEntities.Entity.Source
import CatalogEntities.FileSystem
import CatalogEntities.Report
import CatalogEntities.Run.Event

/-!
# `Run/Job.lean` — the work on one table

The work on a table is three steps: the table is described and rendered, the text is written to a
temporary file beside the final one, and the temporary file is renamed. A dry run ends after the
first. Each step either brings the job one stage further or fails; a job that is finished stays as
it is.

A file that cannot be written is reported under its final path, whichever of the two was refused.
When renaming is refused, the temporary file is removed again.

The steps are those of the generator's `generate_table` and `write_atomic`, cut where the machine
can be seen by another job: between the two operations on files, and before the first. What happens
inside a step is not interrupted, and a step of one job may come between any two steps of another.
That is the granularity at which orders of the jobs are compared.
-/

set_option autoImplicit false

namespace CatalogEntities

/-- **How far the work on a table is.** A stage carries what the later ones need and nothing else:
once the entity is rendered its description is forgotten, and once the file is in its place only the
entry of the report is left. -/
inductive Job
  | waiting (table : String)
  /-- The entity is rendered and nothing is written. -/
  | rendered (file : EntityFile)
  /-- The temporary file has been written to its end, and the final place is as it was. -/
  | staged (file : EntityFile)
  /-- There is nothing left to do; in a dry run there was nothing to write either. -/
  | finished (file : GeneratedFile)
  deriving Repr, DecidableEq

namespace Job

/-- Where an entity file belongs. The name is joined as text and not checked, so a table whose name
holds a slash has a path that leads out of the output directory. -/
def path (settings : GeneratorSettings) (file : EntityFile) : String :=
  Path.join settings.outputDir file.name

/-- The temporary file beside a file: in the same directory, so that renaming does not move it
between devices, and hidden. It depends on the path alone, which is why a run that is repeated
writes over the temporary file that an earlier one was cut off at. -/
def temporaryPath (path : String) : String :=
  Path.withFileName path ("." ++ (Path.fileName? path).getD "" ++ ".tmp")

/-- The entry of the report. It counts bytes of UTF-8, as the file will have them, and is the same
whether the file is written or not. -/
def summary (settings : GeneratorSettings) (file : EntityFile) : GeneratedFile :=
  ⟨file.table, path settings file, file.contents.utf8ByteSize⟩

/-- What is reported of a job, if it is finished. -/
def result? : Job → Option GeneratedFile
  | finished file => some file
  | _ => none

end Job

/-- **What a step leads to**: the machine after it, what is told of it, and the job as it goes on or
why it does not. The machine is there for a step that fails too, since a failed step may have
changed it. -/
structure JobStep where
  files : FileSystem
  events : List RunEvent
  result : Except Failure Job

namespace Job

/-- **The first step**: the table is described and rendered. In a dry run it is also the last, and
the report gets the entry that it would get if the file were written. -/
def render (catalog : Catalog) (settings : GeneratorSettings) (table : String) (fs : FileSystem) :
    JobStep :=
  match catalog.describe table with
  | .error f => ⟨fs, [.processing table], .error f⟩
  | .ok t =>
      let file := EntityFile.ofTable settings t
      let events := RunEvent.processing table :: (catalog.notice t).map .noted
      if settings.dryRun then
        ⟨fs, events ++ [.wouldCreate (path settings file)],
          .ok (finished (summary settings file))⟩
      else ⟨fs, events, .ok (rendered file)⟩

/-- **The second step**: the text is written to the temporary file. If that is refused the failure
names the final path, since the temporary one means nothing to a reader. -/
def stage (settings : GeneratorSettings) (file : EntityFile) (fs : FileSystem) : JobStep :=
  let path := path settings file
  match fs.writeFile (temporaryPath path) file.contents.toByteArray with
  | .ok fs => ⟨fs, [], .ok (staged file)⟩
  | .error fault => ⟨fs, [], .error (.fileWrite path fault)⟩

/-- **The third step**: the temporary file is renamed, which is how an entity file comes to its
place in one piece. If that is refused the temporary file is removed; if even that is refused it is
left behind with a warning, and the run still fails for the reason that came first. -/
def publish (settings : GeneratorSettings) (file : EntityFile) (fs : FileSystem) : JobStep :=
  let path := path settings file
  let temporary := temporaryPath path
  match fs.renameFile temporary path with
  | .ok fs => ⟨fs, [.created path], .ok (finished (summary settings file))⟩
  | .error fault =>
      match fs.removeFile temporary with
      | .ok fs => ⟨fs, [], .error (.fileWrite path fault)⟩
      | .error cleanup =>
          ⟨fs, [.leftBehind temporary cleanup.message], .error (.fileWrite path fault)⟩

/-- **The next step of a job.** A job that is finished has steps without end that do nothing, so
that a schedule need not know when a job is done. This keeps the system total: every job can always
be given a turn, and the only way for a run to end early is a step that fails. -/
def step (catalog : Catalog) (settings : GeneratorSettings) (job : Job) (fs : FileSystem) :
    JobStep :=
  match job with
  -- the constructors are the stages in their order, and each step leads to the next of them
  | waiting table => render catalog settings table fs
  | rendered file => stage settings file fs
  | staged file => publish settings file fs
  | finished file => ⟨fs, [], .ok (finished file)⟩

end Job

end CatalogEntities
