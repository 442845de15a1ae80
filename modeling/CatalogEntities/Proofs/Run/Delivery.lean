import CatalogEntities.Proofs.Run.Job

/-!
# `Proofs/Run/Delivery.lean` — an entity file is written whole or not at all

A rendered file is **delivered** in two steps, and in between it stands under a temporary name
beside its own. So whatever goes wrong before the end, the place of the file has not been touched:
that is `Job.AllOrNothing`, and it is proved of more than the program does on the file systems of
this project. There a write is refused or complete, and a temporary file that was written can always
be removed again. A real machine may refuse any of the three operations at any time, or stop a write
halfway; `Job.Delivery` has a case for each of these, and the delivery of the program is one of
them.

Two places decide everything. That they are in one directory and different is seen from the path of
the file alone (`Job.locate_temporaryPath`), whatever dots and slashes it is written with.
-/

set_option autoImplicit false

namespace CatalogEntities

/-! ## The two places of a file -/

/-- A path with a last name takes that name as its last step. Points and repeated slashes behind it
do not count, as in the path of a directory that is written with a slash at its end. -/
theorem Path.exists_steps_of_fileName? {path name : String}
    (h : Path.fileName? path = some name) :
    (∃ front, Path.steps path = front ++ [name]) ∧ Path.IsName name := by
  unfold Path.fileName? at h
  cases hlast : (Path.trimIdle (Path.segments path)).getLast? with
  | none =>
    rw [hlast] at h
    exact absurd h (by simp)
  | some last =>
    rw [hlast] at h
    dsimp only at h
    split at h
    · exact absurd h (by simp)
    · rename_i hname
      obtain rfl := Option.some.inj h
      rw [not_or, Bool.not_eq_true] at hname
      obtain ⟨front, hfront⟩ := List.getLast?_eq_some_iff.1 hlast
      have hsteps : Path.steps path = front.filter (fun s => !Path.isIdle s) ++ [last] := by
        rw [Path.steps, ← Path.filter_trimIdle, hfront, List.filter_append]
        simp [hname.1]
      have hmem : last ∈ Path.steps path := by
        rw [hsteps]
        exact List.mem_append_right _ List.mem_cons_self
      exact ⟨⟨_, hsteps⟩, Path.isName_of_mem_steps hmem hname.2⟩

namespace Job

/-- **The temporary file stands beside the file**, under another name. -/
theorem locate_temporaryPath {target name : String} (h : Path.fileName? target = some name)
    (fs : FileSystem) :
    ∃ directory, fs.locate target = directory ++ [name] ∧
      fs.locate (temporaryPath target) = directory ++ [temporaryName name] := by
  obtain ⟨⟨front, hsteps⟩, hname⟩ := Path.exists_steps_of_fileName? h
  have hother := Run.isName_temporaryName hname.noSlash
  obtain ⟨hsteps', hstart⟩ := Path.steps_withFileName hsteps hname.notUp hother
  have htemporary : temporaryPath target = Path.withFileName target (temporaryName name) := by
    rw [temporaryPath, h, Option.getD_some, temporaryName]
  refine ⟨(fs.start target).follow front, ?_, ?_⟩
  · rw [FileSystem.locate, hsteps, Location.follow_append_singleton _ _ hname.notUp]
  · rw [htemporary, FileSystem.locate, FileSystem.start, hstart, hsteps',
      Location.follow_append_singleton _ _ hother.notUp]
    rfl

theorem temporaryName_ne_self (name : String) : temporaryName name ≠ name := by
  intro h
  have hlength := congrArg String.length h
  simp only [temporaryName, String.length_append] at hlength
  have hdot : ".".length = 1 := by decide
  omega

theorem locate_temporaryPath_ne {target name : String} (h : Path.fileName? target = some name)
    (fs : FileSystem) : fs.locate (temporaryPath target) ≠ fs.locate target := by
  obtain ⟨directory, htarget, htemporary⟩ := locate_temporaryPath h fs
  rw [htarget, htemporary]
  intro heq
  exact temporaryName_ne_self name (List.cons.inj (List.append_cancel_left heq)).1

/-! ## Delivering -/

/-- **A rendered file is delivered** by the next two steps of its job: its temporary file is
written, and renamed if that went well. -/
def deliver (catalog : Catalog) (settings : GeneratorSettings) (file : EntityFile)
    (fs : FileSystem) : JobStep :=
  let staging := (rendered file).step catalog settings fs
  match staging.result with
  | .ok job => job.step catalog settings staging.files
  | .error _ => staging

/-- **What delivering a file may come to** on a machine that can refuse every operation and stop a
write anywhere. -/
inductive Delivery (settings : GeneratorSettings) (file : EntityFile) (before : FileSystem) :
    FileSystem → Except Failure Unit → Prop
  | delivered {staged after}
      (hwrite : before.writeFile (temporaryPath (path settings file))
        file.contents.toByteArray = .ok staged)
      (hrename : staged.renameFile (temporaryPath (path settings file)) (path settings file) =
        .ok after) :
      Delivery settings file before after (.ok ())
  /-- The temporary file is not even opened. -/
  | unwritten (fault : SystemFault) :
      Delivery settings file before before (.error (.fileWrite (path settings file) fault))
  /-- Its writing stops after some of the bytes. -/
  | torn (n : Nat) (fault : SystemFault) {after}
      (hwrite : before.writeFile (temporaryPath (path settings file))
        (file.contents.toByteArray.extract 0 n) = .ok after) :
      Delivery settings file before after (.error (.fileWrite (path settings file) fault))
  /-- It is not renamed, and removed again. -/
  | withdrawn (fault : SystemFault) {staged after}
      (hwrite : before.writeFile (temporaryPath (path settings file))
        file.contents.toByteArray = .ok staged)
      (hremove : staged.removeFile (temporaryPath (path settings file)) = .ok after) :
      Delivery settings file before after (.error (.fileWrite (path settings file) fault))
  /-- It is neither renamed nor removed. -/
  | leftBehind (fault : SystemFault) {staged}
      (hwrite : before.writeFile (temporaryPath (path settings file))
        file.contents.toByteArray = .ok staged) :
      Delivery settings file before staged (.error (.fileWrite (path settings file) fault))

/-- **All or nothing**, at the place of a file. It is stated for a path and a text, so that what it
says can be read without knowing what an entity file is. -/
structure AllOrNothing (target text : String) (before after : FileSystem)
    (result : Except Failure Unit) : Prop where
  /-- A file that is delivered is complete, and nothing else has changed but that the place of the
  temporary file is free. -/
  all : result = .ok () →
    after.node? (before.locate target) = some (.file text.toByteArray) ∧
      after.readFile target = .ok text.toByteArray ∧
      after.node? (before.locate (temporaryPath target)) = none ∧
      ∀ loc, loc ≠ before.locate target → loc ≠ before.locate (temporaryPath target) →
        after.node? loc = before.node? loc
  /-- A failure names the file, whichever path was refused, and nothing has changed but at the place
  of the temporary file. -/
  nothing : ∀ f, result = .error f →
    (∃ fault, f = .fileWrite target fault) ∧
      after.node? (before.locate target) = before.node? (before.locate target) ∧
      ∀ loc, loc ≠ before.locate (temporaryPath target) → after.node? loc = before.node? loc

section

variable {catalog : Catalog} {settings : GeneratorSettings} {file : EntityFile}
  {before after : FileSystem}

theorem AllOrNothing.of_error {target text name : String}
    (h : Path.fileName? target = some name) (fault : SystemFault)
    (helsewhere : ∀ loc, loc ≠ before.locate (temporaryPath target) →
      after.node? loc = before.node? loc) :
    AllOrNothing target text before after (.error (.fileWrite target fault)) where
  all hok := absurd hok (by simp)
  nothing f hf := by
    refine ⟨⟨fault, (Except.error.inj hf).symm⟩, ?_, helsewhere⟩
    exact helsewhere _ (locate_temporaryPath_ne h before).symm

theorem elsewhere_of_writeFile {target : String} {bytes : ByteArray}
    (h : before.writeFile (temporaryPath target) bytes = .ok after) (loc : Location)
    (hloc : loc ≠ before.locate (temporaryPath target)) :
    after.node? loc = before.node? loc := by
  rw [FileSystem.node?_of_writeFile h, if_neg hloc]

theorem elsewhere_of_removeFile {target : String} {bytes : ByteArray} {staged : FileSystem}
    (hwrite : before.writeFile (temporaryPath target) bytes = .ok staged)
    (hremove : staged.removeFile (temporaryPath target) = .ok after) (loc : Location)
    (hloc : loc ≠ before.locate (temporaryPath target)) :
    after.node? loc = before.node? loc := by
  have hdirs := FileSystem.sameDirectories_of_writeFile hwrite
  rw [FileSystem.node?_of_removeFile hremove, hdirs.locate, if_neg hloc]
  exact elsewhere_of_writeFile hwrite loc hloc

/-- **A delivered file is complete**: what the temporary file held stands in its place. -/
theorem AllOrNothing.of_renamed {target text name : String}
    (h : Path.fileName? target = some name) {staged : FileSystem}
    (hwrite : before.writeFile (temporaryPath target) text.toByteArray = .ok staged)
    (hrename : staged.renameFile (temporaryPath target) target = .ok after) :
    AllOrNothing target text before after (.ok ()) where
  all _ := by
    have hdirs := FileSystem.sameDirectories_of_writeFile hwrite
    have hne := locate_temporaryPath_ne h before
    obtain ⟨bytes, -, htarget, -, -⟩ := FileSystem.renameFile_eq_ok_iff.1 hrename
    obtain ⟨bytes, hsource, hnode⟩ := FileSystem.node?_of_renameFile hrename
    rw [hdirs.locate] at hsource hnode
    rw [hdirs.locate] at hnode
    -- what is renamed is what was written
    have hbytes : bytes = text.toByteArray := by
      rw [FileSystem.node?_of_writeFile hwrite, if_pos rfl] at hsource
      exact (Node.file.inj (Option.some.inj hsource)).symm
    have hfile : after.node? (before.locate target) = some (.file text.toByteArray) := by
      rw [hnode, if_pos rfl, hbytes]
    refine ⟨hfile, ?_, ?_, ?_⟩
    · have hdirs' := FileSystem.sameDirectories_of_renameFile hrename
      apply FileSystem.readFile_eq_ok (htarget.congr hdirs')
      rw [hdirs'.locate, hdirs.locate]
      exact hfile
    · rw [hnode, if_neg hne, if_pos rfl]
    · intro loc hloc htemporary
      rw [hnode, if_neg hloc, if_neg htemporary]
      exact elsewhere_of_writeFile hwrite loc htemporary
  nothing f hf := absurd hf (by simp)

/-- **Whatever a delivery comes to, it is all or nothing.** Only one of the cases renames; the
others have touched the place of the temporary file at most. -/
theorem Delivery.isAllOrNothing {name : String}
    (hname : Path.fileName? (path settings file) = some name) {result : Except Failure Unit}
    (h : Delivery settings file before after result) :
    AllOrNothing (path settings file) file.contents before after result := by
  cases h with
  | delivered hwrite hrename => exact .of_renamed hname hwrite hrename
  | unwritten fault => exact .of_error hname fault fun _ _ => rfl
  | torn n fault hwrite => exact .of_error hname fault (elsewhere_of_writeFile hwrite)
  | withdrawn fault hwrite hremove =>
    exact .of_error hname fault (elsewhere_of_removeFile hwrite hremove)
  | leftBehind fault hwrite => exact .of_error hname fault (elsewhere_of_writeFile hwrite)

/-! ## The delivery of the program -/

theorem deliver_of_ok {staged : FileSystem}
    (h : before.writeFile (temporaryPath (path settings file)) file.contents.toByteArray =
      .ok staged) : deliver catalog settings file before = publish settings file staged := by
  have hstep : (rendered file).step catalog settings before = ⟨staged, [], .ok (.staged file)⟩ :=
    stage_of_ok h
  unfold deliver
  rw [hstep]
  rfl

theorem deliver_of_error {fault : SystemFault}
    (h : before.writeFile (temporaryPath (path settings file)) file.contents.toByteArray =
      .error fault) :
    deliver catalog settings file before =
      ⟨before, [], .error (.fileWrite (path settings file) fault)⟩ := by
  have hstep : (rendered file).step catalog settings before =
      ⟨before, [], .error (.fileWrite (path settings file) fault)⟩ :=
    stage_of_error h
  unfold deliver
  rw [hstep]

/-- **What the program does is one of the deliveries.** A torn write is not among its results, since
writes here are refused or complete. -/
theorem delivery_deliver (catalog : Catalog) (settings : GeneratorSettings) (file : EntityFile)
    (before : FileSystem) :
    Delivery settings file before (deliver catalog settings file before).files
      ((deliver catalog settings file before).result.map fun _ => ()) := by
  cases hwrite : before.writeFile (temporaryPath (path settings file))
      file.contents.toByteArray with
  | error fault =>
    rw [deliver_of_error hwrite]
    exact .unwritten fault
  | ok staged =>
    rw [deliver_of_ok hwrite]
    cases hrename : staged.renameFile (temporaryPath (path settings file))
        (path settings file) with
    | ok after =>
      rw [publish_of_ok hrename]
      exact .delivered hwrite hrename
    | error fault =>
      obtain ⟨hresult, hfiles⟩ := publish_of_error hrename
      rw [hresult]
      -- removing it again is attempted, and may be refused
      rcases hfiles with hsame | hremove
      · rw [hsame]
        exact .leftBehind fault hwrite
      · exact .withdrawn fault hwrite hremove

/-- A temporary file that was written can be removed again: it is a file, and the directory around
it is there. -/
theorem exists_removeFile {target : String} {bytes : ByteArray} {staged : FileSystem}
    (h : before.writeFile target bytes = .ok staged) :
    ∃ after, staged.removeFile target = .ok after := by
  have hdirs := FileSystem.sameDirectories_of_writeFile h
  refine ⟨_, FileSystem.removeFile_eq_ok_iff.2 ⟨?_, ⟨bytes, ?_⟩, rfl⟩⟩
  · exact (FileSystem.writeFile_eq_ok_iff.1 h).1.congr hdirs
  · rw [hdirs.locate, FileSystem.node?_of_writeFile h, if_pos rfl]

/-- **A file that is not renamed leaves no temporary file behind.** -/
theorem deliver_of_unrenamed {staged : FileSystem} {fault : SystemFault}
    (hwrite : before.writeFile (temporaryPath (path settings file)) file.contents.toByteArray =
      .ok staged)
    (hrename : staged.renameFile (temporaryPath (path settings file)) (path settings file) =
      .error fault) :
    (deliver catalog settings file before).result =
        .error (.fileWrite (path settings file) fault) ∧
      ∀ loc, (deliver catalog settings file before).files.node? loc =
        if loc = before.locate (temporaryPath (path settings file)) then none
        else before.node? loc := by
  obtain ⟨removed, hremove⟩ := exists_removeFile hwrite
  have hpublish : publish settings file staged =
      ⟨removed, [], .error (.fileWrite (path settings file) fault)⟩ := by
    unfold publish
    dsimp only
    rw [hrename]
    dsimp only
    rw [hremove]
  rw [deliver_of_ok hwrite, hpublish]
  refine ⟨rfl, fun loc => ?_⟩
  split
  · rename_i hloc
    have hdirs := FileSystem.sameDirectories_of_writeFile hwrite
    rw [FileSystem.node?_of_removeFile hremove, hdirs.locate, hloc, if_pos rfl]
  · rename_i hloc
    exact elsewhere_of_removeFile hwrite hremove loc hloc

/-- **A file is delivered exactly if both of its places are for files.** -/
theorem deliver_eq_ok_iff :
    (∃ job, (deliver catalog settings file before).result = .ok job) ↔
      before.Writable (temporaryPath (path settings file)) ∧
        before.Writable (path settings file) := by
  constructor
  · rintro ⟨job, hjob⟩
    have h := delivery_deliver catalog settings file before
    rw [hjob] at h
    generalize (deliver catalog settings file before).files = after at h
    cases h with
    | delivered hwrite hrename =>
      have hdirs := FileSystem.sameDirectories_of_writeFile hwrite
      obtain ⟨bytes, -, htarget, -, -⟩ := FileSystem.renameFile_eq_ok_iff.1 hrename
      exact ⟨(FileSystem.writeFile_eq_ok_iff.1 hwrite).1, htarget.congr hdirs.symm⟩
  · rintro ⟨htemporary, htarget⟩
    obtain ⟨staged, hwrite⟩ : ∃ staged, before.writeFile (temporaryPath (path settings file))
        file.contents.toByteArray = .ok staged :=
      ⟨_, FileSystem.writeFile_eq_ok_iff.2 ⟨htemporary, rfl⟩⟩
    -- writing the one file takes no directory away from the other
    have hdirs := FileSystem.sameDirectories_of_writeFile hwrite
    have hrename := FileSystem.renameFile_eq_ok_iff.2 ⟨file.contents.toByteArray,
      htemporary.congr hdirs, htarget.congr hdirs, ?_, rfl⟩
    · rw [deliver_of_ok hwrite, publish_of_ok hrename]
      exact ⟨_, rfl⟩
    · rw [hdirs.locate, FileSystem.node?_of_writeFile hwrite, if_pos rfl]

end

/-- Every path and every text is that of some file. So what is said of entity files is said of all
paths and texts, as far as `write_atomic` can be given them. -/
theorem exists_path_eq (target text : String) :
    ∃ settings file, path settings file = target ∧ file.contents = text := by
  refine ⟨Run.settingsFor "", ⟨"", target, text⟩, ?_, rfl⟩
  show Path.join "" target = target
  unfold Path.join
  split
  · rfl
  · rw [if_pos (Or.inl rfl), String.empty_append]

/-- **How a file is delivered**, beginning with any file system. -/
structure DeliversWhole (catalog : Catalog) (settings : GeneratorSettings) (file : EntityFile)
    (before : FileSystem) : Prop where
  /-- The temporary file has its place in the directory of the file. -/
  beside : ∃ directory name, before.locate (path settings file) = directory ++ [name] ∧
    before.locate (temporaryPath (path settings file)) = directory ++ [temporaryName name]
  /-- Whatever is refused and whenever a write stops, it is all or nothing. -/
  always : ∀ after result, Delivery settings file before after result →
    AllOrNothing (path settings file) file.contents before after result
  /-- So is what the program does. -/
  program : AllOrNothing (path settings file) file.contents before
    (deliver catalog settings file before).files
    ((deliver catalog settings file before).result.map fun _ => ())
  /-- It succeeds exactly if both places are for files. -/
  succeeds : (∃ job, (deliver catalog settings file before).result = .ok job) ↔
    before.Writable (temporaryPath (path settings file)) ∧ before.Writable (path settings file)
  /-- A temporary file that can be removed is gone. -/
  withdrawn : ∀ staged after,
    before.writeFile (temporaryPath (path settings file)) file.contents.toByteArray = .ok staged →
      staged.removeFile (temporaryPath (path settings file)) = .ok after →
        after.node? (before.locate (temporaryPath (path settings file))) = none
  /-- When the program is refused the renaming, it can remove it, and nothing has changed. -/
  unrenamed : ∀ staged fault,
    before.writeFile (temporaryPath (path settings file)) file.contents.toByteArray = .ok staged →
      staged.renameFile (temporaryPath (path settings file)) (path settings file) = .error fault →
        (deliver catalog settings file before).result =
            .error (.fileWrite (path settings file) fault) ∧
          ∀ loc, (deliver catalog settings file before).files.node? loc =
            if loc = before.locate (temporaryPath (path settings file)) then none
            else before.node? loc

/-- **A file is written whole or not at all**, at whatever path with a last name. Other paths, like
`..`, name no file that could be written. -/
theorem allOrNothing :
    (∀ target text, ∃ settings file, path settings file = target ∧ file.contents = text) ∧
      ∀ catalog settings file before name, Path.fileName? (path settings file) = some name →
        DeliversWhole catalog settings file before := by
  refine ⟨exists_path_eq, ?_⟩
  intro catalog settings file before name hname
  obtain ⟨directory, htarget, htemporary⟩ := locate_temporaryPath hname before
  exact
    { beside := ⟨directory, name, htarget, htemporary⟩
      always := fun _ _ h => h.isAllOrNothing hname
      program := (delivery_deliver catalog settings file before).isAllOrNothing hname
      succeeds := deliver_eq_ok_iff
      withdrawn := by
        intro staged after hwrite hremove
        have hdirs := FileSystem.sameDirectories_of_writeFile hwrite
        rw [FileSystem.node?_of_removeFile hremove, hdirs.locate, if_pos rfl]
      unrenamed := fun _ _ hwrite hrename => deliver_of_unrenamed hwrite hrename }

/-- A directory where a file belongs, and beside it what an earlier attempt has left. -/
def occupied : FileSystem :=
  ((FileSystem.scratch "work").put ["work", "Orders.entity.ts"] .directory).put
    ["work", ".Orders.entity.ts.tmp"] (.file "export".toByteArray)

/-- A machine on which the renaming is refused, because a directory is in the way. -/
theorem allOrNothing_occupied :
    let catalog := (MemoryCatalog.ofTables []).catalog
    let file : EntityFile := ⟨"orders", "Orders.entity.ts", "export class Orders \x7b\n\x7d\n"⟩
    Path.fileName? (path (Run.settingsFor "") file) = some "Orders.entity.ts" ∧
      DeliversWhole catalog (Run.settingsFor "") file occupied ∧
      (deliver catalog (Run.settingsFor "") file occupied).files.node?
        ["work", ".Orders.entity.ts.tmp"] = none := by
  intro catalog file
  have hname : Path.fileName? (path (Run.settingsFor "") file) = some "Orders.entity.ts" := by
    decide +kernel
  refine ⟨hname, allOrNothing.2 _ _ _ _ _ hname, ?_⟩
  decide +kernel

end Job

end CatalogEntities
