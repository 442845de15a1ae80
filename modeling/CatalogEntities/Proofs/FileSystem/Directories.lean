import CatalogEntities.Proofs.FileSystem.Lookup
import Mathlib.Logic.Relation

/-!
# `Proofs/FileSystem/Directories.lean` — making directories

Making a directory with the missing ones above it is a sequence of single attempts at parents of
the path. Whatever becomes of the later ones, each attempt that succeeds puts a directory at a
waypoint of the path where nothing stood. That is all that ever changes (`Built`), also when the
sequence ends in a refusal; and when it does not, the path leads to a directory.

The attempts are made from the path upwards and then downwards again, as `create_dir_all` does, and
which of them succeed depends on what the earlier ones made. The proofs do not follow that order.
They look at a run as a chain of single makings (`makeDirectoriesWithin_making`), each of which has
the effect that is claimed of all, so that the induction is on the chain and not on the fuel.
-/

set_option autoImplicit false

namespace CatalogEntities

/-- One path is reached from another by going from a path to its parent any number of times. -/
def Path.IsAbove (above path : String) : Prop :=
  Relation.ReflTransGen (fun p q => Path.parent? p = some q) path above

namespace FileSystem

/-- One directory is made on the way to a path. It is the parent, or one further up, of what the
path was at first. -/
def Making (path : String) (before after : FileSystem) : Prop :=
  ∃ above, Path.IsAbove above path ∧ before.makeDirectory above = .ok after

/-- **What making directories may change**: at waypoints of the path where nothing stood there may
be directories now. Nothing that was there is replaced, files no more than directories. -/
structure Built (path : String) (before after : FileSystem) : Prop where
  /-- The working directory is where it was, so paths begin where they began. -/
  working : after.working = before.working
  /-- A location holds what it held, or it is a waypoint that was free. -/
  node? : ∀ loc, after.node? loc = before.node? loc ∨
    (loc ∈ before.waypoints path ∧ before.node? loc = none ∧ after.node? loc = some .directory)

namespace Built

variable {path : String} {a b c : FileSystem}

theorem refl (path : String) (fs : FileSystem) : Built path fs fs := ⟨rfl, fun _ => Or.inl rfl⟩

theorem keepsDirectories (h : Built path a b) : KeepsDirectories a b := by
  refine ⟨h.working, fun loc hloc => ?_⟩
  rcases h.node? loc with hsame | ⟨-, hnone, -⟩
  · rw [hsame, hloc]
  · rw [hloc] at hnone
    exact absurd hnone (by simp)

/-- Waypoints are the same before and after, so what is built twice is built. -/
theorem trans (hab : Built path a b) (hbc : Built path b c) : Built path a c := by
  refine ⟨hbc.working.trans hab.working, fun loc => ?_⟩
  rcases hab.node? loc with hsame | ⟨hmem, hnone, hdir⟩
  · rcases hbc.node? loc with hsame' | ⟨hmem, hnone, hdir⟩
    · exact Or.inl (hsame'.trans hsame)
    · rw [waypoints_congr hab.working] at hmem
      exact Or.inr ⟨hmem, hsame ▸ hnone, hdir⟩
  · exact Or.inr ⟨hmem, hnone, hbc.keepsDirectories.directory loc hdir⟩

end Built

/-- A directory is made where a path leads, at its last waypoint, and where nothing stood. -/
theorem makeDirectory_eq_ok {fs after : FileSystem} {path : String}
    (h : fs.makeDirectory path = .ok after) :
    (∃ ending, fs.resolve path = .ok ending) ∧ fs.locate path ∈ fs.waypoints path ∧
      fs.node? (fs.locate path) = none ∧ after = fs.put (fs.locate path) .directory := by
  rw [makeDirectory] at h
  split at h
  · exact absurd h (by simp)
  · exact absurd h (by simp)
  · rename_i directory name slashed hresolve
    split at h
    · exact absurd h (by simp)
    · rename_i hnode
      injection h with h
      obtain ⟨hlocate, hmem, -⟩ := resolve_eq_ok hresolve
      rcases hmem with ⟨_, hdots⟩ | hmem
      · exact absurd hdots (by simp)
      · rw [hlocate]
        exact ⟨⟨_, hresolve⟩, hmem, hnode, h.symm⟩

/-- The waypoints of a path above are waypoints of the path. -/
theorem waypoints_subset_of_isAbove (fs : FileSystem) {above path : String}
    (h : Path.IsAbove above path) : fs.waypoints above ⊆ fs.waypoints path := by
  induction h with
  | refl => exact List.Subset.refl _
  | tail _ hparent ih =>
    exact fun loc hloc => ih ((waypoints_prefix_of_parent? hparent).subset hloc)

/-- A directory that is made on the way to a path is at a waypoint of the path. -/
theorem Making.built {path : String} {before after : FileSystem} (h : Making path before after) :
    Built path before after := by
  obtain ⟨above, habove, hmake⟩ := h
  obtain ⟨-, hmem, hnone, rfl⟩ := makeDirectory_eq_ok hmake
  have hroot := ne_nil_of_mem_waypoints hmem
  refine ⟨rfl, fun loc => ?_⟩
  rw [node?_put before hroot]
  by_cases hloc : loc = before.locate above
  · rw [if_pos hloc, hloc]
    exact Or.inr ⟨waypoints_subset_of_isAbove before habove hmem, hnone, rfl⟩
  · rw [if_neg hloc]
    exact Or.inl rfl

/-- **Any number of makings builds.** -/
theorem built_of_reflTransGen {path : String} {before after : FileSystem}
    (h : Relation.ReflTransGen (Making path) before after) : Built path before after := by
  induction h with
  | refl => exact .refl path before
  | tail _ hmaking ih => exact ih.trans hmaking.built

/-! ## With the missing ones above -/

/-- A directory that was made is one. -/
theorem isDirectory_of_makeDirectory {fs after : FileSystem} {path : String}
    (h : fs.makeDirectory path = .ok after) : after.isDirectory path = true := by
  have hbuilt : Built path fs after := Making.built ⟨path, .refl, h⟩
  obtain ⟨⟨ending, hresolve⟩, hmem, -, rfl⟩ := makeDirectory_eq_ok h
  have hroot := ne_nil_of_mem_waypoints hmem
  rw [isDirectory, hbuilt.keepsDirectories.resolve hresolve]
  refine decide_eq_true ?_
  rw [← locate_of_resolve hresolve, node?_put fs hroot, if_pos rfl]

/-- What is made on the way to the parent is made on the way to the path. -/
theorem Making.of_parent? {path parent : String} (h : Path.parent? path = some parent)
    {before after : FileSystem} (hmaking : Making parent before after) :
    Making path before after := by
  obtain ⟨above, habove, hmake⟩ := hmaking
  exact ⟨above, Relation.ReflTransGen.head h habove, hmake⟩

/-- **Making directories is making one at a time.** -/
theorem makeDirectoriesWithin_making (path : String) (fuel : Nat) (fs : FileSystem) :
    Relation.ReflTransGen (Making path) fs (fs.makeDirectoriesWithin path fuel).1 := by
  -- each unit of fuel goes one parent up; what is made there is made above the path as well
  induction fuel generalizing path fs with
  | zero => exact .refl
  | succ fuel ih =>
    rw [makeDirectoriesWithin]
    split
    · exact .refl
    split
    · rename_i hmake
      exact .single ⟨path, .refl, hmake⟩
    split
    · split
      · exact .refl
      · rename_i parent hparent
        have hrest := Relation.ReflTransGen.mono (fun _ _ => Making.of_parent? hparent) _ _
          (ih parent fs)
        split
        · rename_i hsome
          rw [hsome] at hrest
          exact hrest
        · rename_i hsome
          rw [hsome] at hrest
          split
          · rename_i hmake
            exact hrest.tail ⟨path, .refl, hmake⟩
          · exact hrest
    · exact .refl

/-- Making directories ends well only at a directory. There are two ways to end well: the last
attempt made the directory, or it failed and there was one. -/
theorem isDirectory_of_makeDirectoriesWithin {path : String} (hpath : path ≠ "") {fuel : Nat}
    {fs after : FileSystem} (h : fs.makeDirectoriesWithin path fuel = (after, .ok ())) :
    after.isDirectory path = true := by
  -- a directory that could not be made may have been there already
  have hunless : ∀ {fs : FileSystem} {fault : SystemFault},
      fs.unlessDirectory path fault = (after, .ok ()) → after.isDirectory path = true := by
    intro fs fault h
    rw [unlessDirectory] at h
    obtain ⟨rfl, h⟩ := Prod.mk.inj h
    cases hdir : fs.isDirectory path with
    | true => rfl
    | false =>
      rw [hdir] at h
      exact absurd h (by simp)
  cases fuel with
  | zero => exact absurd (congrArg Prod.snd h) (by simp [makeDirectoriesWithin])
  | succ fuel =>
    rw [makeDirectoriesWithin, if_neg hpath] at h
    split at h
    · rename_i hmake
      rw [← (Prod.mk.inj h).1]
      exact isDirectory_of_makeDirectory hmake
    split at h
    · split at h
      · exact absurd (Prod.mk.inj h).2 (by simp)
      · split at h
        · exact absurd (Prod.mk.inj h).2 (by simp)
        · split at h
          · rename_i hmake
            rw [← (Prod.mk.inj h).1]
            exact isDirectory_of_makeDirectory hmake
          · exact hunless h
    · exact hunless h

/-- A directory need not be made again. The attempt is made all the same and refused, and the
refusal is forgiven because of the directory. -/
theorem makeDirectories_of_isDirectory {fs : FileSystem} {path : String}
    (h : fs.isDirectory path = true) : fs.makeDirectories path = (fs, .ok ()) := by
  rw [makeDirectories, makeDirectoriesWithin]
  split
  · rfl
  rw [isDirectory] at h
  split at h
  · rename_i ending hresolve
    have hmake : fs.makeDirectory path = .error .alreadyExists := by
      rw [makeDirectory, hresolve]
      cases ending with
      | dots directory => rfl
      | entry directory name slashed =>
        have hnode : fs.node? (directory ++ [name]) = some .directory := of_decide_eq_true h
        simp only [hnode]
    have hfault : SystemFault.alreadyExists ≠ .notFound := by decide
    rw [hmake]
    simp only [if_neg hfault, unlessDirectory, isDirectory, hresolve, h, if_true]
  · exact absurd h (by simp)

/-- **Every waypoint of a directory is a directory.** -/
theorem directory_of_isDirectory {fs : FileSystem} {path : String}
    (h : fs.isDirectory path = true) {loc : Location} (hloc : loc ∈ fs.waypoints path) :
    fs.node? loc = some .directory := by
  rw [isDirectory] at h
  split at h
  · rename_i ending hresolve
    by_cases hend : loc = ending.location
    · -- the end is a directory by assumption, the other waypoints since the lookup came by
      rw [hend]
      exact of_decide_eq_true h
    · exact (resolve_eq_ok hresolve).2.2 loc hloc hend
  · exact absurd h (by simp)

/-- A directory stays one where directories are kept. -/
theorem KeepsDirectories.isDirectory {before after : FileSystem}
    (h : KeepsDirectories before after) {path : String} (hpath : before.isDirectory path = true) :
    after.isDirectory path = true := by
  rw [FileSystem.isDirectory] at hpath ⊢
  split at hpath
  · rename_i ending hresolve
    rw [h.resolve hresolve]
    exact decide_eq_true (h.directory _ (of_decide_eq_true hpath))
  · exact absurd hpath (by simp)

end FileSystem

end CatalogEntities
