import CatalogEntities.Dictionary

/-!
# `Proofs/Dictionary.lean` — what is found is there

The other half of what `Dictionary.lean` says of lookups: an answer comes from an entry, names are
those under which something is found, and a dictionary made of a list answers from the end of it.

A dictionary is ascending by its type, so there is one list of entries for each way to answer
(`eq_of_find?_eq`). That is what allows labels, variables and strategies to be compared by what is
found in them.
-/

set_option autoImplicit false

namespace CatalogEntities

variable {α : Type}

/-- What a lookup finds stands in the list under the name that was asked for. -/
theorem mem_of_lookup_eq_some {xs : List (String × α)} {name : String} {value : α}
    (h : xs.lookup name = some value) : (name, value) ∈ xs := by
  obtain ⟨before, after, rfl, -⟩ := List.lookup_eq_some_iff.1 h
  exact List.mem_append_right _ List.mem_cons_self

namespace Dictionary

theorem mem_entries_of_find? {d : Dictionary α} {name : String} {value : α}
    (h : d.find? name = some value) : (name, value) ∈ d.entries :=
  mem_of_lookup_eq_some h

theorem mem_names_iff {d : Dictionary α} {name : String} :
    name ∈ d.names ↔ (d.find? name).isSome := by
  rw [names, find?, List.mem_map, List.lookup_isSome_iff]
  constructor
  · rintro ⟨p, hp, rfl⟩
    exact ⟨p, hp, beq_self_eq_true _⟩
  · rintro ⟨p, hp, hname⟩
    exact ⟨p, hp, (eq_of_beq hname).symm⟩

/-- What stands under a name in an ascending list is found there. -/
theorem lookup_eq_some_of_mem {xs : List (String × α)} (hxs : Ascending xs) {name : String}
    {value : α} (h : (name, value) ∈ xs) : xs.lookup name = some value := by
  induction xs with
  | nil => exact absurd h List.not_mem_nil
  | cons x rest ih =>
    obtain ⟨key, first⟩ := x
    obtain ⟨hlt, hrest⟩ := List.pairwise_cons.1 hxs
    rcases List.mem_cons.1 h with h | h
    · injection h with hname hvalue
      rw [List.lookup_cons, hname, beq_self_eq_true, hvalue]
    · have hne : name ≠ key := fun he => String.lt_irrefl key (he ▸ hlt _ h)
      rw [List.lookup_cons, beq_eq_false_iff_ne.2 hne]
      exact ih hrest h

theorem mem_entries_iff {d : Dictionary α} {name : String} {value : α} :
    (name, value) ∈ d.entries ↔ d.find? name = some value :=
  ⟨lookup_eq_some_of_mem d.ascending, mem_entries_of_find?⟩

/-- **Dictionaries are equal if they answer alike.** -/
theorem eq_of_find?_eq {d other : Dictionary α} (h : ∀ name, d.find? name = other.find? name) :
    d = other := by
  have hmem : ∀ p : String × α, p ∈ d.entries ↔ p ∈ other.entries := by
    rintro ⟨name, value⟩
    rw [mem_entries_iff, mem_entries_iff, h]
  have hnodup : ∀ e : Dictionary α, e.entries.Nodup := by
    intro e
    refine e.ascending.imp ?_
    rintro a _ hlt rfl
    exact String.lt_irrefl a.1 hlt
  -- the same entries without repetitions, and there is one ascending list of them
  have hperm : d.entries.Perm other.entries :=
    (List.perm_ext_iff_of_nodup (hnodup d) (hnodup other)).2 hmem
  obtain ⟨entries, ascending⟩ := d
  obtain ⟨entries', ascending'⟩ := other
  have hentries : entries = entries' :=
    hperm.eq_of_pairwise (fun _ _ _ _ hab hba => absurd (String.lt_trans hab hba)
      (String.lt_irrefl _)) ascending ascending'
  subst hentries
  rfl

/-- In an ascending list it does not matter from which end a name is looked up. -/
theorem lookup_reverse {xs : List (String × α)} (hxs : Ascending xs) (name : String) :
    xs.reverse.lookup name = xs.lookup name := by
  cases hlast : xs.reverse.lookup name with
  | some value =>
    exact (lookup_eq_some_of_mem hxs (List.mem_reverse.1 (mem_of_lookup_eq_some hlast))).symm
  | none =>
    rw [eq_comm, List.lookup_eq_none_iff]
    exact fun p hp => List.lookup_eq_none_iff.1 hlast p (List.mem_reverse.2 hp)

theorem pairwise_names (d : Dictionary α) : d.names.Pairwise (· < ·) :=
  List.pairwise_map.2 d.ascending

/-- Of two entries with one name the later counts. -/
theorem find?_ofList (pairs : List (String × α)) (name : String) :
    (ofList pairs).find? name = pairs.reverse.lookup name := by
  have hfold : ∀ d : Dictionary α,
      (pairs.foldl (fun d p => d.insert p.1 p.2) d).find? name =
        (pairs.reverse.lookup name).or (d.find? name) := by
    induction pairs with
    | nil =>
      intro d
      rfl
    | cons pair rest ih =>
      intro d
      obtain ⟨key, value⟩ := pair
      rw [List.foldl_cons, ih, find?_insert, List.reverse_cons, List.lookup_append]
      cases rest.reverse.lookup name with
      | some found => simp
      | none =>
        by_cases h : name = key
        · simp [h]
        · simp [h, List.lookup_cons, beq_eq_false_iff_ne.2 h]
  show (pairs.foldl (fun d p => d.insert p.1 p.2) empty).find? name = _
  rw [hfold, find?_empty, Option.or_none]

/-- A dictionary is what its entries describe. -/
theorem ofList_entries (d : Dictionary α) : ofList d.entries = d := by
  apply eq_of_find?_eq
  intro name
  rw [find?_ofList, lookup_reverse d.ascending]
  rfl

theorem mem_names_ofList {pairs : List (String × α)} {name : String} :
    name ∈ (ofList pairs).names ↔ ∃ p ∈ pairs, p.1 = name := by
  rw [mem_names_iff, find?_ofList, List.lookup_isSome_iff]
  constructor
  · rintro ⟨p, hp, hname⟩
    exact ⟨p, List.mem_reverse.1 hp, (eq_of_beq hname).symm⟩
  · rintro ⟨p, hp, rfl⟩
    exact ⟨p, List.mem_reverse.2 hp, beq_self_eq_true _⟩

end Dictionary

end CatalogEntities
