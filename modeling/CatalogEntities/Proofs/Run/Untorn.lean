import CatalogEntities.Proofs.Run.Moment

/-!
# `Proofs/Run/Untorn.lean` — never half an entity file

A file comes to its place only by a rename, and what is renamed is a temporary file that was written
to its end. So at every moment of a run the place of an entity file holds what it held before or all
of the new contents.

The difficulty is in the word *every*. Between the write and the rename of one file other jobs move,
a write may stop halfway, and a temporary file may be taken away again. What survives all of this is
a condition on one job and its two places (`Intact`), and the frame of the moves does the rest.

One thing can come in between: the path of the output directory may itself lead over the place of an
entity file and back, as `out/Orders.entity.ts/..` does. Then making the output directory puts a
directory there, if nothing was there.
-/

set_option autoImplicit false

namespace CatalogEntities.Run

open FileSystem (Built Making)

/-- **A job that tears nothing**: its entity file is what it was originally or complete, and a
temporary file that is to be renamed is complete, if it is still there. The last clause is what
makes the first survive a rename; a temporary file that is not to be renamed may be torn. -/
structure Intact (catalog : Catalog) (settings : GeneratorSettings) (original : Option Node)
    (table : String) (job : Job) (atTarget atTemporary : Option Node) : Prop where
  isFor : job.IsFor catalog settings table
  target : atTarget = original ∨
    ∃ file, Renders catalog settings table file ∧ atTarget = some (complete file)
  staged : ∀ file, job = .staged file → atTemporary = none ∨ atTemporary = some (complete file)

variable {catalog : Catalog} {settings : GeneratorSettings} {requested : List String}
  {original : Option Node} {table : String} {job next : Job} {fs after base : FileSystem}

/-- **An advance tears nothing.** -/
theorem Intact.of_advances (h : Separate catalog settings requested)
    (htable : table ∈ tables catalog settings requested)
    (hintact : Intact catalog settings original table job
      (fs.node? (Run.target settings fs table)) (fs.node? (temporary settings fs table)))
    (hadvance : job.Advances catalog settings fs next after) :
    Intact catalog settings original table next
      (after.node? (Run.target settings fs table)) (after.node? (temporary settings fs table)) := by
  have hnext := (h.touches_of_advances htable hintact.isFor hadvance).2
  cases hadvance with
  | described => exact ⟨hnext, hintact.target, fun file hfile => absurd hfile (by simp)⟩
  | foreseen => exact ⟨hnext, hintact.target, fun file hfile => absurd hfile (by simp)⟩
  | @written file _ _ hwrite =>
    obtain ⟨htarget, htemporary⟩ := h.nodes_of_writeFile htable hnext hwrite
    rw [htarget, htemporary]
    refine ⟨hnext, hintact.target, fun other hother => Or.inr ?_⟩
    rw [← Job.staged.inj hother, complete]
  | @renamed file _ _ hrename =>
    obtain ⟨bytes, hsource, htarget, -⟩ := h.nodes_of_renameFile htable hintact.isFor hrename
    refine ⟨hnext, Or.inr ⟨file, hintact.isFor, ?_⟩, fun other hother => absurd hother (by simp)⟩
    -- what was renamed is the temporary file, and that was complete
    rcases hintact.staged file rfl with hnone | hcomplete
    · rw [hnone] at hsource
      exact absurd hsource (by simp)
    · rw [htarget, ← hsource, hcomplete]
  | rested => exact hintact

/-- **A setback tears nothing**: neither of the two touches the entity file. A job whose write has
stopped is back where it was, with nothing to rename. -/
theorem Intact.of_setBack (h : Separate catalog settings requested)
    (htable : table ∈ tables catalog settings requested)
    (hintact : Intact catalog settings original table job
      (fs.node? (Run.target settings fs table)) (fs.node? (temporary settings fs table)))
    (hback : job.SetBack settings fs after) :
    Intact catalog settings original table job
      (after.node? (Run.target settings fs table)) (after.node? (temporary settings fs table)) := by
  have hjob := hintact.isFor
  cases hback with
  | torn n hwrite =>
    obtain ⟨htarget, -⟩ := h.nodes_of_writeFile htable hjob hwrite
    rw [htarget]
    exact ⟨hjob, hintact.target, fun other hother => absurd hother (by simp)⟩
  | withdrawn hremove =>
    obtain ⟨htarget, htemporary⟩ := h.nodes_of_removeFile htable hjob hremove
    rw [htarget, htemporary]
    exact ⟨hjob, hintact.target, fun other _ => Or.inl rfl⟩

/-! ## Every moment -/

/-- Every job of a moment tears nothing of what stood in `base`. -/
abbrev HoldsIntact (catalog : Catalog) (settings : GeneratorSettings) (requested : List String)
    (base : FileSystem) : Moment → Prop :=
  Holds settings base (tables catalog settings requested) fun table =>
    Intact catalog settings (base.node? (Run.target settings base table)) table

theorem HoldsIntact.of_move (h : Separate catalog settings requested) {m n : Moment}
    (hm : HoldsIntact catalog settings requested base m) (hmove : Move catalog settings m n) :
    HoldsIntact catalog settings requested base n := by
  cases hmove with
  | advance hjob hadvance =>
    obtain ⟨table, htable, hintact⟩ := hm.exists_table hjob
    have hmem := List.mem_of_getElem? htable
    exact h.holds_set hm htable (h.touches_of_advances hmem hintact.isFor hadvance).1
      (hintact.of_advances h hmem hadvance)
  | setBack hjob hback =>
    obtain ⟨table, htable, hintact⟩ := hm.exists_table hjob
    have hmem := List.mem_of_getElem? htable
    have hset := h.holds_set hm htable (h.touches_of_setBack hmem hintact.isFor hback)
      (hintact.of_setBack h hmem hback)
    obtain ⟨hi, hget⟩ := List.getElem?_eq_some_iff.1 hjob
    rwa [← hget, List.set_getElem_self hi] at hset

theorem HoldsIntact.of_moves (h : Separate catalog settings requested) {m : Moment}
    (hmoves : Relation.ReflTransGen (Move catalog settings)
      (.initial base (tables catalog settings requested)) m) :
    HoldsIntact catalog settings requested base m := by
  induction hmoves with
  | refl =>
    exact holds_initial settings base _ fun table _ =>
      ⟨rfl, Or.inl rfl, fun file hfile => absurd hfile (by simp)⟩
  | tail _ hmove ih => exact ih.of_move h hmove

/-- What may become of a place that a run does not write to: nothing, or a directory on the way to
the output directory. The directory stands where nothing was, so that no file is lost. -/
def Kept (settings : GeneratorSettings) (before after : FileSystem) (loc : Location) : Prop :=
  after.node? loc = before.node? loc ∨
    (loc ∈ before.waypoints settings.outputDir ∧ before.node? loc = none ∧
      after.node? loc = some .directory)

/-- **Nothing is torn**: every entity file of a request is as it was or complete, and apart from the
temporary files nothing else has changed. -/
structure Untorn (catalog : Catalog) (settings : GeneratorSettings) (requested : List String)
    (before after : FileSystem) : Prop where
  /-- Complete means that every byte is there. -/
  entities : ∀ table ∈ tables catalog settings requested,
    Kept settings before after (target settings before table) ∨
      ∃ file, Renders catalog settings table file ∧
        after.node? (target settings before table) = some (complete file)
  /-- Of temporary files nothing is said: they may be torn or left behind. -/
  elsewhere : ∀ loc, (∀ table ∈ tables catalog settings requested,
      loc ≠ target settings before table ∧ loc ≠ temporary settings before table) →
    Kept settings before after loc

theorem Kept.of_built {before after : FileSystem} {loc : Location}
    (hbuilt : Built settings.outputDir before base)
    (h : after.node? loc = base.node? loc) : Kept settings before after loc := by
  rw [Kept, h]
  exact hbuilt.node? loc

/-- **No entity file is ever half-written.** At every moment of a run, and in whatever a program
leaves behind, each entity file is what it was before or complete. -/
theorem untorn (h : Regular catalog settings requested) (fs : FileSystem) :
    (∀ m, Reaches catalog settings requested fs m →
      Untorn catalog settings requested fs m.files) ∧
    ∀ schedule, Untorn catalog settings requested fs
      (scheduled catalog settings requested schedule fs).files := by
  have hreaches : ∀ m, Reaches catalog settings requested fs m →
      Untorn catalog settings requested fs m.files := by
    rintro m ⟨base, hmaking, hmoves⟩
    have hbuilt := FileSystem.built_of_reflTransGen hmaking
    have hholds := HoldsIntact.of_moves h.separate hmoves
    have htarget : ∀ table, target settings base table = target settings fs table :=
      target_congr hbuilt.working
    have htemporary : ∀ table, temporary settings base table = temporary settings fs table :=
      temporary_congr hbuilt.working
    constructor
    · -- the job on the table tells what stands at the place of its file
      intro table htable
      obtain ⟨i, hi⟩ := List.getElem?_of_mem htable
      have hlength : i < m.jobs.length := hholds.count ▸ (List.getElem?_eq_some_iff.1 hi).1
      have hintact := hholds.job i table _ hi (List.getElem?_eq_getElem hlength)
      rw [← htarget table]
      rcases hintact.target with hsame | hcomplete
      · exact Or.inl (.of_built hbuilt hsame)
      · exact Or.inr hcomplete
    · intro loc hloc
      refine .of_built hbuilt (hholds.elsewhere loc fun table htable => ?_)
      rw [htarget, htemporary]
      exact hloc table htable
  refine ⟨hreaches, fun schedule => ?_⟩
  obtain ⟨jobs, hjobs⟩ := reaches_scheduled catalog h.writes requested schedule fs
  exact hreaches _ hjobs

/-- The small request on an empty machine. -/
theorem untorn_shop :
    Regular shop.catalog (settingsFor "out") [] ∧
      ∀ schedule, Untorn shop.catalog (settingsFor "out") [] (.scratch "work")
        (scheduled shop.catalog (settingsFor "out") [] schedule (.scratch "work")).files :=
  ⟨regular_shop "out", (untorn (regular_shop "out") (.scratch "work")).2⟩

/-- **An output directory whose path leads over an entity file.** Nothing stood where the file of
the orders belongs; when the run has failed a directory stands there. -/
theorem not_untouched_or_complete_shop :
    let settings := settingsFor "out/Orders.entity.ts/.."
    let before := FileSystem.scratch "work"
    let after := (scheduled shop.catalog settings [] [] before).files
    (Regular shop.catalog settings [] ∧ "orders" ∈ tables shop.catalog settings []) ∧
      ¬ (after.node? (target settings before "orders") =
          before.node? (target settings before "orders") ∨
        ∃ file, Renders shop.catalog settings "orders" file ∧
          after.node? (target settings before "orders") = some (complete file)) := by
  have hnone : (FileSystem.scratch "work").node?
      (target (settingsFor "out/Orders.entity.ts/..") (.scratch "work") "orders") = none := by
    decide +kernel
  have hdirectory : (scheduled shop.catalog (settingsFor "out/Orders.entity.ts/..") [] []
      (.scratch "work")).files.node?
        (target (settingsFor "out/Orders.entity.ts/..") (.scratch "work") "orders") =
      some .directory := by decide +kernel
  refine ⟨⟨regular_shop _, by decide +kernel⟩, ?_⟩
  rintro (hsame | ⟨file, -, hcomplete⟩)
  · rw [hdirectory, hnone] at hsame
    exact absurd hsame (by simp)
  · rw [hdirectory] at hcomplete
    exact absurd hcomplete (by simp [complete])

end CatalogEntities.Run
