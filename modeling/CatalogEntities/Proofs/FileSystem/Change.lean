import CatalogEntities.Proofs.FileSystem.Lookup

/-!
# `Proofs/FileSystem/Change.lean` — what operations on files do

Each operation on files is said in one equivalence: when it succeeds, and which file system it
leads to. All of them ask for a place that is **writable**, one that a path leads to by name in a
directory and where no directory stands. Whether a place is writable depends on the directories
alone, and operations on files leave the directories as they are.

So writability has to be asked once in a run and stays true, or false, from then on, which is what
the invariants of `Proofs/Run` carry along. The equivalences are the only lemmas that open
`writeFile`, `removeFile` and `renameFile`: their many ways to fail matter to the faults that are
reported, and of what follows from success only the place and the bytes are left.
-/

set_option autoImplicit false

namespace CatalogEntities.FileSystem

/-- **A place for a file**: a lookup ends at a name in a directory, where no directory stands. The
path must not end in a slash, which would ask for a directory there. -/
def Writable (fs : FileSystem) (path : String) : Prop :=
  ∃ directory name, fs.resolve path = .ok (.entry directory name false) ∧
    fs.node? (directory ++ [name]) ≠ some .directory

namespace Writable

variable {fs : FileSystem} {path : String}

theorem not_directory (h : fs.Writable path) : fs.node? (fs.locate path) ≠ some .directory := by
  obtain ⟨directory, name, hresolve, hnode⟩ := h
  rw [locate_of_resolve hresolve]
  exact hnode

theorem locate_ne_nil (h : fs.Writable path) : fs.locate path ≠ [] := by
  intro hnil
  apply h.not_directory
  rw [hnil, node?, if_pos rfl]

/-- Only the directories decide what is writable. -/
theorem congr {before after : FileSystem} (h : before.Writable path)
    (hdirs : SameDirectories before after) : after.Writable path := by
  obtain ⟨directory, name, hresolve, hnode⟩ := h
  exact ⟨directory, name, hdirs.forth.resolve hresolve, fun h => hnode (hdirs.back.directory _ h)⟩

end Writable

/-! ## The operations -/

/-- **Writing a file** succeeds exactly at a writable place, and puts the bytes there. A file that
stood there is replaced. -/
theorem writeFile_eq_ok_iff {fs after : FileSystem} {path : String} {bytes : ByteArray} :
    fs.writeFile path bytes = .ok after ↔
      fs.Writable path ∧ after = fs.put (fs.locate path) (.file bytes) := by
  constructor
  · intro h
    rw [writeFile] at h
    split at h
    · exact absurd h (by simp)
    · exact absurd h (by simp)
    · rename_i directory name slashed hresolve
      split at h
      · exact absurd h (by simp)
      split at h
      · exact absurd h (by simp)
      rename_i hslashed hnode
      rw [Bool.not_eq_true] at hslashed
      rw [hslashed] at hresolve
      injection h with h
      rw [locate_of_resolve hresolve]
      exact ⟨⟨directory, name, hresolve, hnode⟩, h.symm⟩
  · rintro ⟨⟨directory, name, hresolve, hnode⟩, rfl⟩
    rw [writeFile, hresolve, locate_of_resolve hresolve]
    simp only [Bool.false_eq_true, if_false, if_neg hnode]
    rfl

/-- **Removing a file** succeeds exactly where one stands. -/
theorem removeFile_eq_ok_iff {fs after : FileSystem} {path : String} :
    fs.removeFile path = .ok after ↔
      fs.Writable path ∧ (∃ bytes, fs.node? (fs.locate path) = some (.file bytes)) ∧
        after = fs.erase (fs.locate path) := by
  constructor
  · intro h
    rw [removeFile] at h
    split at h
    · exact absurd h (by simp)
    · exact absurd h (by simp)
    · rename_i directory name slashed hresolve
      split at h
      · exact absurd h (by simp)
      · exact absurd h (by simp)
      · rename_i bytes hnode
        split at h
        · exact absurd h (by simp)
        · rename_i hslashed
          rw [Bool.not_eq_true] at hslashed
          rw [hslashed] at hresolve
          injection h with h
          rw [locate_of_resolve hresolve]
          exact ⟨⟨directory, name, hresolve, by simp [hnode]⟩, ⟨bytes, hnode⟩, h.symm⟩
  · rintro ⟨⟨directory, name, hresolve, -⟩, ⟨bytes, hnode⟩, rfl⟩
    rw [locate_of_resolve hresolve] at hnode ⊢
    change fs.node? (directory ++ [name]) = _ at hnode
    rw [removeFile, hresolve]
    simp only [hnode, Bool.false_eq_true, if_false]
    rfl

/-- **Renaming a file** succeeds from a place with a file to a writable place, and leaves nothing
behind. It is one step: there is no file system in between in which the file is missing. -/
theorem renameFile_eq_ok_iff {fs after : FileSystem} {source target : String} :
    fs.renameFile source target = .ok after ↔
      ∃ bytes, fs.Writable source ∧ fs.Writable target ∧
        fs.node? (fs.locate source) = some (.file bytes) ∧
        after = (fs.erase (fs.locate source)).put (fs.locate target) (.file bytes) := by
  constructor
  · intro h
    rw [renameFile] at h
    split at h
    · exact absurd h (by simp)
    · exact absurd h (by simp)
    · exact absurd h (by simp)
    · exact absurd h (by simp)
    · rename_i directory name slashed directory' name' slashed' hsource htarget
      split at h
      · exact absurd h (by simp)
      · exact absurd h (by simp)
      · rename_i bytes hnode
        split at h
        · exact absurd h (by simp)
        split at h
        · exact absurd h (by simp)
        rename_i hslashed hnode'
        rw [Bool.not_eq_true, Bool.or_eq_false_iff] at hslashed
        rw [hslashed.1] at hsource
        rw [hslashed.2] at htarget
        injection h with h
        -- the source is writable too: a file stands there, so no directory does
        refine ⟨bytes, ⟨directory, name, hsource, by simp [hnode]⟩,
          ⟨directory', name', htarget, hnode'⟩, ?_⟩
        rw [locate_of_resolve hsource, locate_of_resolve htarget]
        exact ⟨hnode, h.symm⟩
  · rintro ⟨bytes, ⟨directory, name, hsource, -⟩, ⟨directory', name', htarget, hnode'⟩, hnode, rfl⟩
    rw [locate_of_resolve hsource] at hnode ⊢
    rw [locate_of_resolve htarget]
    change fs.node? (directory ++ [name]) = _ at hnode
    rw [renameFile, hsource, htarget]
    simp only [hnode, Bool.or_self, Bool.false_eq_true, if_false, if_neg hnode']
    rfl

theorem readFile_eq_ok {fs : FileSystem} {path : String} {bytes : ByteArray}
    (hpath : fs.Writable path) (hnode : fs.node? (fs.locate path) = some (.file bytes)) :
    fs.readFile path = .ok bytes := by
  obtain ⟨directory, name, hresolve, -⟩ := hpath
  rw [locate_of_resolve hresolve] at hnode
  change fs.node? (directory ++ [name]) = _ at hnode
  rw [readFile, hresolve]
  simp only [hnode, Bool.false_eq_true, if_false]

/-! ## What stays -/

/-- Putting a file where no directory stands leaves the directories as they are. -/
theorem sameDirectories_put {fs : FileSystem} {loc : Location} (bytes : ByteArray)
    (hloc : loc ≠ []) (hnode : fs.node? loc ≠ some .directory) :
    SameDirectories fs (fs.put loc (.file bytes)) := by
  refine ⟨⟨rfl, fun place h => ?_⟩, ⟨rfl, fun place h => ?_⟩⟩
  -- a directory before is one afterwards, and the other way about
  · rw [node?_put fs hloc]
    by_cases hplace : place = loc
    · exact absurd (hplace ▸ h) hnode
    · rw [if_neg hplace]
      exact h
  · rw [node?_put fs hloc] at h
    by_cases hplace : place = loc
    · rw [if_pos hplace] at h
      exact absurd h (by simp)
    · rw [if_neg hplace] at h
      exact h

/-- And so does clearing such a place. The root is a directory whatever is erased. -/
theorem sameDirectories_erase {fs : FileSystem} {loc : Location}
    (hnode : fs.node? loc ≠ some .directory) : SameDirectories fs (fs.erase loc) := by
  refine ⟨⟨rfl, fun place h => ?_⟩, ⟨rfl, fun place h => ?_⟩⟩
  · rw [node?_erase]
    by_cases hplace : place = loc
    · exact absurd (hplace ▸ h) hnode
    · simp only [if_neg hplace, h]
      exact ite_self _
  · rw [node?_erase] at h
    by_cases hroot : place = []
    · rw [node?, if_pos hroot]
    · by_cases hplace : place = loc
      · rw [if_neg hroot, if_pos hplace] at h
        exact absurd h (by simp)
      · rwa [if_neg hroot, if_neg hplace] at h

theorem sameDirectories_of_writeFile {fs after : FileSystem} {path : String} {bytes : ByteArray}
    (h : fs.writeFile path bytes = .ok after) : SameDirectories fs after := by
  obtain ⟨hpath, rfl⟩ := writeFile_eq_ok_iff.1 h
  exact sameDirectories_put bytes hpath.locate_ne_nil hpath.not_directory

theorem sameDirectories_of_removeFile {fs after : FileSystem} {path : String}
    (h : fs.removeFile path = .ok after) : SameDirectories fs after := by
  obtain ⟨hpath, -, rfl⟩ := removeFile_eq_ok_iff.1 h
  exact sameDirectories_erase hpath.not_directory

theorem sameDirectories_of_renameFile {fs after : FileSystem} {source target : String}
    (h : fs.renameFile source target = .ok after) : SameDirectories fs after := by
  obtain ⟨bytes, hsource, htarget, -, rfl⟩ := renameFile_eq_ok_iff.1 h
  have herase := sameDirectories_erase hsource.not_directory
  refine herase.trans (sameDirectories_put bytes htarget.locate_ne_nil fun hnode => ?_)
  -- nothing that clearing the source leaves behind is a directory that was not there before
  exact htarget.not_directory (herase.back.directory _ hnode)

/-! ## What stands where afterwards -/

/-- **A written file** stands at its place, and everything else where it stood. -/
theorem node?_of_writeFile {fs after : FileSystem} {path : String} {bytes : ByteArray}
    (h : fs.writeFile path bytes = .ok after) (loc : Location) :
    after.node? loc = if loc = fs.locate path then some (.file bytes) else fs.node? loc := by
  obtain ⟨hpath, rfl⟩ := writeFile_eq_ok_iff.1 h
  exact node?_put fs hpath.locate_ne_nil _ loc

/-- What stands at a location after a location that is not the root was cleared. -/
theorem node?_erase_of_ne_nil (fs : FileSystem) {loc : Location} (hloc : loc ≠ [])
    (other : Location) :
    (fs.erase loc).node? other = if other = loc then none else fs.node? other := by
  rw [node?_erase]
  by_cases hroot : other = []
  · have hne : other ≠ loc := fun h => hloc (h.symm.trans hroot)
    rw [if_pos hroot, if_neg hne, hroot, node?, if_pos rfl]
  · rw [if_neg hroot]

/-- **A removed file** is gone, and nothing else is. -/
theorem node?_of_removeFile {fs after : FileSystem} {path : String}
    (h : fs.removeFile path = .ok after) (loc : Location) :
    after.node? loc = if loc = fs.locate path then none else fs.node? loc := by
  obtain ⟨hpath, -, rfl⟩ := removeFile_eq_ok_iff.1 h
  exact node?_erase_of_ne_nil fs hpath.locate_ne_nil loc

/-- **A renamed file** stands under its new name with what it held, and no longer under the old. -/
theorem node?_of_renameFile {fs after : FileSystem} {source target : String}
    (h : fs.renameFile source target = .ok after) :
    ∃ bytes, fs.node? (fs.locate source) = some (.file bytes) ∧
      ∀ loc, after.node? loc =
        if loc = fs.locate target then some (.file bytes)
        else if loc = fs.locate source then none else fs.node? loc := by
  obtain ⟨bytes, hsource, htarget, hnode, rfl⟩ := renameFile_eq_ok_iff.1 h
  refine ⟨bytes, hnode, fun loc => ?_⟩
  rw [node?_put _ htarget.locate_ne_nil, node?_erase_of_ne_nil fs hsource.locate_ne_nil]

end CatalogEntities.FileSystem
