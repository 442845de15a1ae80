/-!
# `Proofs/Text/Pieces.lean` — texts cut at a character

Words, lines and path segments are the pieces of a text between two separators. `List.splitOn`
cuts a text up and `List.intercalate` puts it together; here is what the pieces hold, and the two
ways in which this library writes a list of texts with something in between.

A list is written either with the separator in between, or as its first element and then each of the
others with the separator in front. The first is how the text is defined and the second how it is
read, and `intercalate_cons_eq` goes from one to the other.
-/

set_option autoImplicit false

namespace CatalogEntities.Text

variable {α : Type}

/-- No piece holds the separator, and what a piece holds was in the text. -/
theorem ne_and_mem_of_mem_splitOn [BEq α] [LawfulBEq α] {x : α} :
    ∀ {xs piece : List α}, piece ∈ xs.splitOn x → ∀ y ∈ piece, y ≠ x ∧ y ∈ xs := by
  intro xs
  induction xs with
  | nil =>
    intro piece hpiece y hy
    rw [List.splitOn_nil, List.mem_singleton] at hpiece
    subst hpiece
    exact absurd hy List.not_mem_nil
  | cons c rest ih =>
    intro piece hpiece y hy
    rw [List.splitOn_cons_eq_if_modifyHead] at hpiece
    split at hpiece
    · rcases List.mem_cons.1 hpiece with rfl | hpiece
      · exact absurd hy List.not_mem_nil
      · exact ⟨(ih hpiece y hy).1, List.mem_cons_of_mem _ (ih hpiece y hy).2⟩
    · rename_i hc
      cases hs : rest.splitOn x with
      | nil => exact absurd hs (List.splitOn_ne_nil x rest)
      | cons first others =>
        rw [hs] at hpiece
        -- the character that is no separator joins the first piece of the rest
        rcases List.mem_cons.1 hpiece with rfl | hpiece
        · rcases List.mem_cons.1 hy with rfl | hy
          · exact ⟨fun h => hc (beq_iff_eq.2 h), List.mem_cons_self⟩
          · have := ih (hs ▸ List.mem_cons_self) y hy
            exact ⟨this.1, List.mem_cons_of_mem _ this.2⟩
        · have := ih (hs ▸ List.mem_cons_of_mem _ hpiece) y hy
          exact ⟨this.1, List.mem_cons_of_mem _ this.2⟩

theorem mem_of_mem_splitOn [BEq α] [LawfulBEq α] {x y : α} {xs piece : List α}
    (hpiece : piece ∈ xs.splitOn x) (hy : y ∈ piece) : y ∈ xs :=
  (ne_and_mem_of_mem_splitOn hpiece y hy).2

theorem not_mem_of_mem_splitOn [BEq α] [LawfulBEq α] {x : α} {xs piece : List α}
    (hpiece : piece ∈ xs.splitOn x) : x ∉ piece :=
  fun h => (ne_and_mem_of_mem_splitOn hpiece x h).1 rfl

/-- What holds of the separator holds of the whole text exactly if it holds of every piece. -/
theorem all_splitOn [BEq α] [LawfulBEq α] {p : α → Bool} {x : α} (hx : p x = true)
    (xs : List α) : (xs.splitOn x).all (·.all p) = xs.all p := by
  induction xs with
  | nil => simp
  | cons c rest ih =>
    rw [List.splitOn_cons_eq_if_modifyHead, List.all_cons, ← ih]
    split
    · rename_i hc
      rw [List.all_cons, List.all_nil, eq_of_beq hc, hx]
    · cases hsplit : rest.splitOn x with
      | nil => exact absurd hsplit (List.splitOn_ne_nil x rest)
      | cons first others =>
        rw [List.modifyHead_cons, List.all_cons, List.all_cons, List.all_cons, Bool.and_assoc]

/-! ## Putting texts together -/

/-- With something in between is the same as the first and then each with it in front. -/
theorem intercalate_cons_eq (sep first : List α) (rest : List (List α)) :
    sep.intercalate (first :: rest) = first ++ rest.flatMap (sep ++ ·) := by
  induction rest generalizing first with
  | nil => simp [List.intercalate]
  | cons second rest ih =>
    rw [List.intercalate_cons_cons, ih, List.flatMap_cons]
    simp only [List.append_assoc]

/-- An empty text at the end leaves what stands in between at the end. -/
theorem intercalate_append_nil (sep first : List α) (rest : List (List α)) :
    sep.intercalate (first :: rest ++ [[]]) = sep.intercalate (first :: rest) ++ sep := by
  rw [List.cons_append, intercalate_cons_eq, intercalate_cons_eq, List.flatMap_append,
    List.flatMap_singleton, List.append_nil, List.append_assoc]

/-- What a text of pieces holds is in what stands between them or in one of them. -/
theorem mem_intercalate {x : α} {sep : List α} {pieces : List (List α)}
    (h : x ∈ sep.intercalate pieces) : x ∈ sep ∨ ∃ piece ∈ pieces, x ∈ piece := by
  cases pieces with
  | nil => exact absurd h List.not_mem_nil
  | cons first rest =>
    rw [intercalate_cons_eq, List.mem_append, List.mem_flatMap] at h
    rcases h with h | ⟨piece, hpiece, h⟩
    · exact Or.inr ⟨first, List.mem_cons_self, h⟩
    · rcases List.mem_append.1 h with h | h
      · exact Or.inl h
      · exact Or.inr ⟨piece, List.mem_cons_of_mem _ hpiece, h⟩

/-- Each piece stands in the text that is made of the pieces. -/
theorem exists_intercalate_of_mem (sep : List α) {pieces : List (List α)} {piece : List α}
    (h : piece ∈ pieces) : ∃ before after, sep.intercalate pieces = before ++ piece ++ after := by
  obtain ⟨front, back, rfl⟩ := List.append_of_mem h
  cases front with
  | nil => exact ⟨[], back.flatMap (sep ++ ·), intercalate_cons_eq sep piece back⟩
  | cons first front =>
    refine ⟨first ++ front.flatMap (sep ++ ·) ++ sep, back.flatMap (sep ++ ·), ?_⟩
    rw [List.cons_append, intercalate_cons_eq, List.flatMap_append, List.flatMap_cons]
    simp only [List.append_assoc]

/-- What is done to every member of pieces put together is done to each piece. -/
theorem flatMap_intercalate {β : Type} (f : α → List β) (sep : List α) (pieces : List (List α)) :
    (sep.intercalate pieces).flatMap f =
      (sep.flatMap f).intercalate (pieces.map (·.flatMap f)) := by
  cases pieces with
  | nil => rfl
  | cons first rest =>
    rw [intercalate_cons_eq, List.map_cons, intercalate_cons_eq, List.flatMap_append,
      List.flatMap_assoc, List.flatMap_map]
    simp only [List.flatMap_append]

/-- Lines with an end each are lines with an end in between and an empty one at last. -/
theorem flatMap_append_singleton_eq (x : α) (pieces : List (List α)) :
    pieces.flatMap (· ++ [x]) = [x].intercalate (pieces ++ [[]]) := by
  induction pieces with
  | nil => simp [List.intercalate]
  | cons first rest ih =>
    rw [List.flatMap_cons, ih]
    cases rest with
    | nil => simp [List.intercalate]
    | cons second rest =>
      simp only [List.cons_append, List.intercalate_cons_cons, List.append_assoc]

end CatalogEntities.Text
