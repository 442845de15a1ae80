import CatalogEntities.Proofs.Run.Claim
import Mathlib.Data.List.FinRange

/-!
# `Proofs/Run/FirstOwner.lean` — the first table of a file name keeps it

The claims of `Run/Claim.lean` are decided with a list of owners, one for each file name so far.
What is decided does not need that list: a table is refused exactly if an earlier one has its file
name, and the first such table is the owner (`verdict`). So the claims are a map over the places of
the listing (`decide_eq_ofFn`), and the tables that are generated and those that are skipped are
read off two complementary sets of places.

Places are used rather than names, because a listing may hold a name twice. Of a list without
repetitions the same could be said with less.
-/

set_option autoImplicit false

namespace CatalogEntities.Claim

open Naming (fileName className)

/-! ## What is decided at each place -/

/-- The first table of a list that has the file name of a table. It is the table itself where no
other comes before. -/
def ownerAmong (suffix : String) (tables : List String) (table : String) : Option String :=
  tables.find? fun other => fileName other suffix = fileName table suffix

/-- What becomes of a table that stands behind others. -/
def verdict (suffix : String) (before : List String) (table : String) : Claim :=
  match ownerAmong suffix before table with
  | some owner => refused table owner
  | none => granted table

section

variable {suffix : String} {owners : List (String × String)} {before tables : List String}

/-- **The owners of the recursion are the first tables of their file names** among those before. -/
theorem decideAfter_eq_ofFn
    (howners : ∀ table, owners.lookup (fileName table suffix) = ownerAmong suffix before table) :
    decideAfter suffix owners tables =
      List.ofFn fun i : Fin tables.length =>
        verdict suffix (before ++ tables.take i) tables[i] := by
  -- on the listing; the owners and the tables they stand for grow together
  induction tables generalizing owners before with
  | nil => rfl
  | cons table rest ih =>
    -- the rest of the listing is decided as behind `before` and `table`
    have hstep : ∀ owners', (∀ other, owners'.lookup (fileName other suffix) =
          ownerAmong suffix (before ++ [table]) other) →
        verdict suffix before table :: decideAfter suffix owners' rest =
          List.ofFn fun i : Fin (table :: rest).length =>
            verdict suffix (before ++ (table :: rest).take i) (table :: rest)[i] := by
      intro owners' howners'
      rw [ih howners', List.ofFn_succ]
      simp [List.append_assoc]
    rw [decideAfter]
    split
    · rename_i owner howner
      rw [howners] at howner
      have hverdict : verdict suffix before table = refused table owner := by
        rw [verdict, howner]
      rw [← hverdict]
      refine hstep owners fun other => ?_
      -- a refused table owns nothing: whoever has its name finds the owner first
      rw [howners, ownerAmong, ownerAmong, List.find?_append]
      by_cases hname : fileName table suffix = fileName other suffix
      · rw [ownerAmong, hname] at howner
        rw [howner, Option.some_or]
      · rw [List.find?_singleton, decide_eq_false hname]
        simp
    · rename_i hfree
      rw [howners] at hfree
      have hverdict : verdict suffix before table = granted table := by
        rw [verdict, hfree]
      rw [← hverdict]
      -- a table whose name is free owns it, and does so among the tables before the rest
      refine hstep _ fun other => ?_
      rw [ownerAmong, List.find?_append, List.lookup_cons]
      by_cases hname : fileName other suffix = fileName table suffix
      · rw [ownerAmong, ← hname] at hfree
        rw [hname, beq_self_eq_true, ← hname, hfree]
        simp [hname]
      · rw [beq_eq_false_iff_ne.2 hname, howners, ownerAmong]
        simp [Ne.symm hname]

end

/-- **Claims are decided place by place**, each by the tables that stand before it. -/
theorem decide_eq_ofFn (suffix : String) (tables : List String) :
    decide suffix tables =
      List.ofFn fun i : Fin tables.length => verdict suffix (tables.take i) tables[i] := by
  have hnone : ∀ table,
      ([] : List (String × String)).lookup (fileName table suffix) = ownerAmong suffix [] table :=
    fun _ => rfl
  exact decideAfter_eq_ofFn hnone

/-! ## Two sets of places -/

section

variable {suffix : String} {tables : List String}

/-- The places whose tables are the first of their file names. -/
def freePlaces (suffix : String) (tables : List String) : List (Fin tables.length) :=
  (List.finRange tables.length).filter fun i =>
    (ownerAmong suffix (tables.take i) tables[i]).isNone

/-- The places whose tables have the file name of an earlier one. -/
def takenPlaces (suffix : String) (tables : List String) : List (Fin tables.length) :=
  (List.finRange tables.length).filter fun i =>
    (ownerAmong suffix (tables.take i) tables[i]).isSome

/-- What is asked of each claim is asked of the owner at each place. -/
theorem filterMap_decide {f : Claim → Option String} {p : Option String → Bool}
    (hf : ∀ before table, f (verdict suffix before table) =
      if p (ownerAmong suffix before table) then some table else none) :
    (decide suffix tables).filterMap f =
      ((List.finRange tables.length).filter fun i : Fin tables.length =>
        p (ownerAmong suffix (tables.take i) tables[i])).map tables.get := by
  rw [decide_eq_ofFn, List.ofFn_eq_map, List.filterMap_map, ← List.filterMap_eq_map,
    List.filterMap_filter]
  exact List.filterMap_congr fun i _ => hf _ _

theorem claimed_eq_map (suffix : String) (tables : List String) :
    claimed suffix tables = (freePlaces suffix tables).map tables.get := by
  refine filterMap_decide (p := Option.isNone) fun before table => ?_
  rw [verdict]
  cases ownerAmong suffix before table <;> rfl

theorem skipped_eq_map (suffix : String) (tables : List String) :
    skipped suffix tables = (takenPlaces suffix tables).map tables.get := by
  refine filterMap_decide (p := Option.isSome) fun before table => ?_
  rw [verdict]
  cases ownerAmong suffix before table <;> rfl

theorem pairwise_finRange_filter (n : Nat) (p : Fin n → Bool) :
    ((List.finRange n).filter p).Pairwise (· < ·) :=
  (List.pairwise_lt_finRange n).filter p

theorem mem_takenPlaces {i : Fin tables.length} :
    i ∈ takenPlaces suffix tables ↔
      ∃ j < i, fileName tables[j] suffix = fileName tables[i] suffix := by
  rw [takenPlaces, List.mem_filter, ownerAmong, List.find?_isSome]
  constructor
  · rintro ⟨-, other, hother, hname⟩
    obtain ⟨j, hj, rfl⟩ := List.mem_take_iff_getElem.1 hother
    rw [Nat.lt_min] at hj
    exact ⟨⟨j, hj.2⟩, hj.1, of_decide_eq_true hname⟩
  · rintro ⟨j, hj, hname⟩
    refine ⟨List.mem_finRange i, tables[j], ?_, decide_eq_true hname⟩
    exact List.mem_take_iff_getElem.2 ⟨j, Nat.lt_min.2 ⟨hj, j.isLt⟩, rfl⟩

/-- A place is free or taken. -/
theorem count_places (suffix : String) (tables : List String) (i : Fin tables.length) :
    (freePlaces suffix tables ++ takenPlaces suffix tables).count i = 1 := by
  have hnodup := List.nodup_finRange tables.length
  rw [List.count_append, freePlaces, takenPlaces, (hnodup.filter _).count, (hnodup.filter _).count]
  simp only [List.mem_filter, List.mem_finRange, true_and]
  cases ownerAmong suffix (tables.take i) tables[i] <;> rfl

/-! ## The owner of a file name -/

theorem ownerAmong_congr {a b : String} (h : fileName a suffix = fileName b suffix) :
    ownerAmong suffix tables a = ownerAmong suffix tables b := by
  rw [ownerAmong, ownerAmong, h]

/-- An owner among the first tables of a listing is the owner in the whole. -/
theorem ownerAmong_of_take {n : Nat} {table owner : String}
    (h : ownerAmong suffix (tables.take n) table = some owner) :
    ownerAmong suffix tables table = some owner := by
  rw [← List.take_append_drop n tables, ownerAmong, List.find?_append]
  rw [ownerAmong] at h
  rw [h, Option.some_or]

/-- What is generated is the first of its file name. -/
theorem ownerAmong_of_mem_claimed {owner : String} (h : owner ∈ claimed suffix tables) :
    ownerAmong suffix tables owner = some owner := by
  rw [claimed_eq_map] at h
  obtain ⟨i, hi, rfl⟩ := List.mem_map.1 h
  have hfree := Option.isNone_iff_eq_none.1 (List.mem_filter.1 hi).2
  have hsplit : tables = tables.take i ++ tables[i] :: tables.drop (i + 1) := by
    rw [Fin.getElem_fin, List.getElem_cons_drop, List.take_append_drop]
  have hfind : ownerAmong suffix (tables.take i ++ tables[i] :: tables.drop (i + 1)) tables[i] =
      some tables[i] := by
    rw [ownerAmong] at hfree
    rw [ownerAmong, List.find?_append, hfree, Option.none_or, List.find?_cons_of_pos (by simp)]
  rwa [← hsplit] at hfind

/-- **The first table of a file name is the one that is generated.** -/
theorem exists_owner {table : String} (h : table ∈ tables) :
    ∃ first, ownerAmong suffix tables table = some first ∧
      (claimed suffix tables).filter (fun owner => fileName owner suffix = fileName table suffix) =
        [first] := by
  have hcount : (claimed suffix tables).countP
      (fun owner => fileName owner suffix = fileName table suffix) = 1 := countP_claimed h
  rw [List.countP_eq_length_filter] at hcount
  obtain ⟨first, hfirst⟩ := List.length_eq_one_iff.1 hcount
  obtain ⟨hmem, hname⟩ := List.mem_filter.1 (hfirst ▸ List.mem_singleton_self first)
  refine ⟨first, ?_, hfirst⟩
  rw [← ownerAmong_congr (of_decide_eq_true hname)]
  exact ownerAmong_of_mem_claimed hmem

/-- A table is refused on account of the first table of its file name. -/
theorem ownerAmong_of_refused {table owner : String}
    (h : refused table owner ∈ decide suffix tables) :
    ownerAmong suffix tables table = some owner := by
  rw [decide_eq_ofFn, List.mem_ofFn] at h
  obtain ⟨i, hi⟩ := h
  rw [verdict] at hi
  split at hi
  · rename_i howner
    injection hi with htable hsame
    subst htable hsame
    exact ownerAmong_of_take howner
  · exact absurd hi (by simp)

/-- **Claims do not depend on the suffix.** -/
theorem decide_suffix (suffix other : String) (tables : List String) :
    decide other tables = decide suffix tables := by
  have howner : ownerAmong other = ownerAmong suffix := by
    funext before table
    simp only [ownerAmong, Naming.fileName_eq_iff]
  simp only [decide_eq_ofFn, verdict, howner]

end

/-- **A listing split by its file names**, into what is generated and what is skipped. -/
structure SplitsByFirst (suffix : String) (tables claimed skipped : List String) : Prop where
  /-- Every place of the listing gives its table to one of the two lists, and these keep its order.
  A place gives it to the second exactly if an earlier one has its file name. -/
  places : ∃ free taken : List (Fin tables.length),
    free.Pairwise (· < ·) ∧ taken.Pairwise (· < ·) ∧ (∀ i, (free ++ taken).count i = 1) ∧
      claimed = free.map tables.get ∧ skipped = taken.map tables.get ∧
      ∀ i, i ∈ taken ↔ ∃ j < i, fileName tables[j] suffix = fileName tables[i] suffix
  /-- No two tables of the first have one file name. -/
  distinct : (claimed.map fun table => fileName table suffix).Nodup
  /-- One table is generated under each file name: the first of the listing that has it. -/
  owner : ∀ table ∈ tables, ∃ first, ownerAmong suffix tables table = some first ∧
    claimed.filter (fun other => fileName other suffix = fileName table suffix) = [first]
  /-- That table is named when another is skipped. -/
  told : ∀ table first, refused table first ∈ decide suffix tables →
    ownerAmong suffix tables table = some first
  /-- The suffix has no part in it. -/
  anySuffix : ∀ other, Claim.claimed other tables = claimed ∧ Claim.skipped other tables = skipped

/-- **The first table of each file name is generated, and every later one is skipped.** -/
theorem splitsByFirst (suffix : String) (tables : List String) :
    SplitsByFirst suffix tables (claimed suffix tables) (skipped suffix tables) where
  places :=
    ⟨freePlaces suffix tables, takenPlaces suffix tables, pairwise_finRange_filter _ _,
      pairwise_finRange_filter _ _, count_places suffix tables, claimed_eq_map suffix tables,
      skipped_eq_map suffix tables, fun _ => mem_takenPlaces⟩
  distinct := List.pairwise_map.2 (pairwise_claimed suffix tables)
  owner _ htable := exists_owner htable
  told _ _ h := ownerAmong_of_refused h
  anySuffix other := by
    rw [claimed, skipped, decide_suffix suffix other]
    exact ⟨rfl, rfl⟩

/-- A table may be listed twice, and names may differ where their classes do not. -/
example : decide ".ts" ["order_items", "orders", "order__items", "orders", "ORDER_ITEMS"] =
    [granted "order_items", granted "orders", refused "order__items" "order_items",
      refused "orders" "orders", refused "ORDER_ITEMS" "order_items"] := by decide +kernel

end CatalogEntities.Claim
