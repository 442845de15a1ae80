/-!
# `Dictionary.lean` — finite maps from names, in name order

A dictionary keeps its names strictly ascending, so that two dictionaries with the same content
are equal, and listing one is listing it in order. Names are compared character by character,
which for UTF-8 text is the order of the bytes.

The main statements say what `find?` answers after each operation; nothing else need be known of
the representation.

The order is carried by the structure and not stated apart from it. A dictionary that was built in
any way is in order, and neither the readers that build dictionaries nor the statements about them
have to speak of it again.
-/

set_option autoImplicit false

namespace CatalogEntities

variable {α : Type}

/-- Puts a value under a name in an ascending list: `change` sees what was there before. It is the
one function that builds lists for dictionaries; inserting and adding to what is there are cases of
it. -/
def alterSorted (name : String) (change : Option α → α) :
    List (String × α) → List (String × α)
  | [] => [(name, change none)]
  | (key, value) :: rest =>
      if name < key then (name, change none) :: (key, value) :: rest
      else if name = key then (key, change (some value)) :: rest
      else (key, value) :: alterSorted name change rest

/-- Names that `alterSorted` leaves in the list were there or are the one put in. -/
theorem mem_alterSorted {name : String} {change : Option α → α} {xs : List (String × α)}
    {p : String × α} (h : p ∈ alterSorted name change xs) : p.1 = name ∨ ∃ q ∈ xs, q.1 = p.1 := by
  induction xs with
  | nil => simp [alterSorted] at h; simp [h]
  | cons x rest ih =>
    obtain ⟨key, value⟩ := x
    simp only [alterSorted] at h
    split at h
    · rcases List.mem_cons.1 h with rfl | h
      · exact Or.inl rfl
      · exact Or.inr ⟨p, h, rfl⟩
    · split at h
      · rename_i hk
        rcases List.mem_cons.1 h with rfl | h
        · exact Or.inl hk.symm
        · exact Or.inr ⟨p, List.mem_cons_of_mem _ h, rfl⟩
      · rcases List.mem_cons.1 h with rfl | h
        · exact Or.inr ⟨_, List.mem_cons_self, rfl⟩
        · rcases ih h with h | ⟨q, hq, h⟩
          · exact Or.inl h
          · exact Or.inr ⟨q, List.mem_cons_of_mem _ hq, h⟩

abbrev Ascending (xs : List (String × α)) : Prop := xs.Pairwise (·.1 < ·.1)

theorem Ascending.alterSorted {name : String} {change : Option α → α} {xs : List (String × α)}
    (h : Ascending xs) : Ascending (alterSorted name change xs) := by
  induction xs with
  | nil => simp [CatalogEntities.alterSorted, Ascending]
  | cons x rest ih =>
    obtain ⟨key, value⟩ := x
    have hrest := List.pairwise_cons.1 h
    simp only [CatalogEntities.alterSorted]
    split
    · rename_i hlt
      refine List.pairwise_cons.2 ⟨?_, h⟩
      intro p hp
      rcases List.mem_cons.1 hp with rfl | hp
      · exact hlt
      · exact String.lt_trans hlt (hrest.1 p hp)
    · rename_i hnlt
      split
      · exact List.pairwise_cons.2 ⟨fun p hp => hrest.1 p hp, hrest.2⟩
      · rename_i hne
        refine List.pairwise_cons.2 ⟨?_, ih hrest.2⟩
        intro p hp
        rcases mem_alterSorted hp with hp | ⟨q, hq, hqp⟩
        · rw [hp]
          exact String.not_le.1 fun hle =>
            hne (String.le_antisymm hle (String.not_lt.1 hnlt))
        · exact hqp ▸ hrest.1 q hq

/-- **A finite map from names.** Equality of dictionaries is equality of their lists, as the proof
in the second field makes no difference. -/
structure Dictionary (α : Type) where
  entries : List (String × α)
  ascending : Ascending entries

namespace Dictionary

/-- The dictionary without names. -/
def empty : Dictionary α := ⟨[], List.Pairwise.nil⟩

instance : EmptyCollection (Dictionary α) := ⟨empty⟩
instance : Inhabited (Dictionary α) := ⟨empty⟩

def find? (d : Dictionary α) (name : String) : Option α := d.entries.lookup name

/-- Changes what stands under a name; the change sees what was there. -/
def alter (d : Dictionary α) (name : String) (change : Option α → α) : Dictionary α :=
  ⟨alterSorted name change d.entries, d.ascending.alterSorted⟩

/-- Puts a value under a name, in place of what was there. -/
def insert (d : Dictionary α) (name : String) (value : α) : Dictionary α :=
  d.alter name fun _ => value

def erase (d : Dictionary α) (name : String) : Dictionary α :=
  ⟨d.entries.filter (·.1 ≠ name), d.ascending.filter _⟩

def contains (d : Dictionary α) (name : String) : Bool := (d.find? name).isSome

/-- The names in order. -/
def names (d : Dictionary α) : List String := d.entries.map Prod.fst

/-- The dictionary that a list of pairs describes; of two pairs with one name the later counts. -/
def ofList (pairs : List (String × α)) : Dictionary α :=
  pairs.foldl (fun d (name, value) => d.insert name value) empty

def mapValues {β : Type} (f : α → β) (d : Dictionary α) : Dictionary β :=
  ⟨d.entries.map fun (name, value) => (name, f value),
    List.pairwise_map.2 d.ascending⟩

/-! ## What is found -/

theorem find?_empty (name : String) : (empty : Dictionary α).find? name = none := rfl

/-- Nothing is found below the first name of an ascending list. -/
theorem lookup_eq_none_of_lt {xs : List (String × α)} {name : String}
    (h : ∀ p ∈ xs, name < p.1) : xs.lookup name = none := by
  induction xs with
  | nil => rfl
  | cons x rest ih =>
    obtain ⟨key, value⟩ := x
    have hlt : name < key := h _ List.mem_cons_self
    have hne : (name == key) = false := by
      refine beq_eq_false_iff_ne.2 fun he => ?_
      exact String.lt_irrefl key (he ▸ hlt)
    rw [List.lookup_cons, hne]
    exact ih fun p hp => h p (List.mem_cons_of_mem _ hp)

/-- Under the name itself stands what the change makes of the value there. Only here the order of
the names is needed: a name that would stand further ahead is nowhere behind. -/
theorem lookup_alterSorted_self {xs : List (String × α)} (hxs : Ascending xs) (name : String)
    (change : Option α → α) :
    (alterSorted name change xs).lookup name = some (change (xs.lookup name)) := by
  induction xs with
  | nil => simp [alterSorted]
  | cons x rest ih =>
    obtain ⟨key, value⟩ := x
    have hrest := List.pairwise_cons.1 hxs
    simp only [alterSorted]
    split
    · rename_i hlt
      have hnone : ((key, value) :: rest).lookup name = none := by
        refine lookup_eq_none_of_lt fun p hp => ?_
        rcases List.mem_cons.1 hp with rfl | hp
        · exact hlt
        · exact String.lt_trans hlt (hrest.1 p hp)
      simp [hnone]
    · split
      · rename_i hk
        simp [hk]
      · rename_i hne
        have hkn : (name == key) = false := beq_eq_false_iff_ne.2 hne
        simp [List.lookup_cons, hkn, ih hrest.2]

/-- Under every other name stands what stood there. -/
theorem lookup_alterSorted_of_ne (xs : List (String × α)) {name other : String} (h : other ≠ name)
    (change : Option α → α) : (alterSorted name change xs).lookup other = xs.lookup other := by
  have hon : (other == name) = false := beq_eq_false_iff_ne.2 h
  induction xs with
  | nil => simp [alterSorted, List.lookup_cons, hon]
  | cons x rest ih =>
    obtain ⟨key, value⟩ := x
    simp only [alterSorted]
    split
    · simp [List.lookup_cons, hon]
    · split
      · rename_i hk
        subst hk
        simp [List.lookup_cons, hon]
      · simp [List.lookup_cons, ih]

/-- **Changing one name** changes what is found there and nowhere else. -/
theorem find?_alter (d : Dictionary α) (name other : String) (change : Option α → α) :
    (d.alter name change).find? other =
      if other = name then some (change (d.find? name)) else d.find? other := by
  split
  · rename_i h
    rw [h]
    exact lookup_alterSorted_self d.ascending name change
  · rename_i h
    exact lookup_alterSorted_of_ne d.entries h change

theorem find?_insert (d : Dictionary α) (name other : String) (value : α) :
    (d.insert name value).find? other = if other = name then some value else d.find? other :=
  find?_alter d name other _

end Dictionary

end CatalogEntities
