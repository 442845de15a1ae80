import CatalogEntities.Proofs.Dictionary
import CatalogEntities.Run.Claim
import Mathlib.Data.List.Nodup

/-!
# `Proofs/Run/Claim.lean` — one owner for each file name

The tables that are generated have pairwise different file names, and every listed table shares its
file name with one of them. Both are said of `decideAfter`, for any file names taken before: the
owners are what the recursion carries.

Every listed table is generated or skipped, and is so once (`perm_claimed_skipped`).

These are the facts on which runs rest: that the places of their files differ, and that a name is
found in one list of a report only. Which table of several keeps a name is a question of its own.
-/

set_option autoImplicit false

namespace CatalogEntities.Claim

open Naming (fileName)

/-- The tables of a listing that are generated. -/
def claimed (suffix : String) (tables : List String) : List String :=
  (decide suffix tables).filterMap granted?

/-- The tables of a listing that are skipped. -/
def skipped (suffix : String) (tables : List String) : List String :=
  (decide suffix tables).filterMap refused?

theorem filterMap_granted (table : String) (claims : List Claim) :
    (granted table :: claims).filterMap granted? = table :: claims.filterMap granted? := rfl

section

variable {suffix : String} {owners : List (String × String)} {tables : List String}

/-- What is granted after some names are taken is a part of the listing, in its order. -/
theorem sublist_decideAfter :
    ((decideAfter suffix owners tables).filterMap granted?).Sublist tables := by
  induction tables generalizing owners with
  | nil => exact .slnil
  | cons table rest ih =>
    rw [decideAfter]
    split
    · exact ih.cons table
    · exact ih.cons_cons table

/-- No file name that was taken is granted again. -/
theorem lookup_of_mem_decideAfter {table : String}
    (h : table ∈ (decideAfter suffix owners tables).filterMap granted?) :
    owners.lookup (fileName table suffix) = none := by
  induction tables generalizing owners with
  | nil => exact absurd h List.not_mem_nil
  | cons first rest ih =>
    rw [decideAfter] at h
    split at h
    · exact ih h
    · rename_i hfree
      rw [filterMap_granted] at h
      rcases List.mem_cons.1 h with rfl | h
      · exact hfree
      · -- what is free when `first` has its name as well was free before
        have := ih h
        rw [List.lookup_cons] at this
        split at this
        · exact absurd this (by simp)
        · exact this

/-- What is granted has file names of its own, by pairs. -/
theorem pairwise_decideAfter :
    ((decideAfter suffix owners tables).filterMap granted?).Pairwise
      fun a b => fileName a suffix ≠ fileName b suffix := by
  induction tables generalizing owners with
  | nil => exact .nil
  | cons first rest ih =>
    rw [decideAfter]
    split
    · exact ih
    · rw [filterMap_granted, List.pairwise_cons]
      refine ⟨fun table htable hname => ?_, ih⟩
      -- the first owns its name from here on, so nothing after it is granted that name
      have := lookup_of_mem_decideAfter htable
      rw [List.lookup_cons, hname, beq_self_eq_true] at this
      exact absurd this (by simp)

/-- Every listed table finds its file name taken before or granted. -/
theorem owner_of_mem {table : String} (owners : List (String × String)) (h : table ∈ tables) :
    (∃ owner, owners.lookup (fileName table suffix) = some owner) ∨
      ∃ owner ∈ (decideAfter suffix owners tables).filterMap granted?,
        fileName owner suffix = fileName table suffix := by
  induction tables generalizing owners with
  | nil => exact absurd h List.not_mem_nil
  | cons first rest ih =>
    rw [decideAfter]
    split
    · rename_i owner howner
      rcases List.mem_cons.1 h with rfl | h
      · exact Or.inl ⟨owner, howner⟩
      · exact ih owners h
    · rw [filterMap_granted]
      rcases List.mem_cons.1 h with rfl | h
      · exact Or.inr ⟨table, List.mem_cons_self, rfl⟩
      · -- the first table owns its name from now on; either that is the name, or it does not matter
        by_cases hname : fileName table suffix = fileName first suffix
        · exact Or.inr ⟨first, List.mem_cons_self, hname.symm⟩
        · rcases ih ((fileName first suffix, first) :: owners) h with
            ⟨owner, howner⟩ | ⟨owner, hmem, howner⟩
          · rw [List.lookup_cons, beq_eq_false_iff_ne.2 hname] at howner
            exact Or.inl ⟨owner, howner⟩
          · exact Or.inr ⟨owner, List.mem_cons_of_mem _ hmem, howner⟩

end

theorem claimed_sublist (suffix : String) (tables : List String) :
    (claimed suffix tables).Sublist tables :=
  sublist_decideAfter

/-- **No two tables that are generated have one file name.** -/
theorem pairwise_claimed (suffix : String) (tables : List String) :
    (claimed suffix tables).Pairwise fun a b => fileName a suffix ≠ fileName b suffix :=
  pairwise_decideAfter

/-- **The file name of every listed table is generated.** -/
theorem exists_claimed {suffix table : String} {tables : List String} (h : table ∈ tables) :
    ∃ owner ∈ claimed suffix tables, fileName owner suffix = fileName table suffix := by
  rcases owner_of_mem [] h with ⟨owner, howner⟩ | h
  · exact absurd howner (by simp)
  · exact h

/-- **One table is generated under the file name of a listed table**, this or another. -/
theorem countP_claimed {suffix table : String} {tables : List String} (h : table ∈ tables) :
    (claimed suffix tables).countP (fun owner => fileName owner suffix = fileName table suffix) =
      1 := by
  obtain ⟨owner, howner, hname⟩ : ∃ owner ∈ claimed suffix tables,
      fileName owner suffix = fileName table suffix := exists_claimed h
  have hnodup : ((claimed suffix tables).map fun owner => fileName owner suffix).Nodup :=
    List.pairwise_map.2 (pairwise_claimed suffix tables)
  have hcount := List.count_eq_one_of_mem hnodup (List.mem_map.2 ⟨owner, howner, hname⟩)
  rw [List.count, List.countP_map] at hcount
  rw [← hcount]
  refine List.countP_congr fun other _ => ?_
  simp

/-! ## Nothing is dropped -/

theorem map_table_decideAfter (suffix : String) (owners : List (String × String))
    (tables : List String) : (decideAfter suffix owners tables).map Claim.table = tables := by
  induction tables generalizing owners with
  | nil => rfl
  | cons first rest ih =>
    rw [decideAfter]
    split
    · rw [List.map_cons, ih, Claim.table]
    · rw [List.map_cons, ih, Claim.table]

/-- What becomes of a table is decided once. -/
theorem perm_filterMap (claims : List Claim) :
    (claims.filterMap granted? ++ claims.filterMap refused?).Perm (claims.map Claim.table) := by
  induction claims with
  | nil => exact .nil
  | cons claim rest ih =>
    cases claim with
    | granted table => exact .cons table ih
    | refused table owner => exact List.perm_middle.trans (.cons table ih)

theorem sublist_filterMap_refused (claims : List Claim) :
    (claims.filterMap refused?).Sublist (claims.map Claim.table) := by
  induction claims with
  | nil => exact .slnil
  | cons claim rest ih =>
    cases claim with
    | granted table => exact ih.cons table
    | refused table owner => exact ih.cons_cons table

/-- **Every listed table is generated or skipped.** -/
theorem perm_claimed_skipped (suffix : String) (tables : List String) :
    (claimed suffix tables ++ skipped suffix tables).Perm tables := by
  have hperm := perm_filterMap (decide suffix tables)
  rwa [decide, map_table_decideAfter] at hperm

theorem skipped_sublist (suffix : String) (tables : List String) :
    (skipped suffix tables).Sublist tables := by
  have hsublist := sublist_filterMap_refused (decide suffix tables)
  rwa [decide, map_table_decideAfter] at hsublist

end CatalogEntities.Claim
