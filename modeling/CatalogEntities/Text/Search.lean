/-!
# `Text/Search.lean` — looking for one text inside another

Three questions about texts as lists of characters: whether one occurs in the other, and what is
left of a text when a given ending, or a given beginning, is taken off.

All three look for characters and know nothing of words. A default that mentions a marker inside a
quoted text mentions it as well.
-/

set_option autoImplicit false

namespace CatalogEntities.Text

/-- Whether `needle` occurs somewhere in the text. -/
def occursIn (needle : List Char) : List Char → Bool
  | [] => needle.isEmpty
  | c :: rest => needle.isPrefixOf (c :: rest) || occursIn needle rest

def mentions (text needle : String) : Bool := occursIn needle.toList text.toList

/-- The text without the given ending, if it ends so. -/
def withoutEnding? (ending text : String) : Option String :=
  (ending.toList.isSuffixOf? text.toList).map String.ofList

/-- The text without the given beginning, if it begins so. -/
def withoutBeginning? (beginning text : String) : Option String :=
  (beginning.toList.isPrefixOf? text.toList).map String.ofList

/-! ## What the searches find -/

theorem occursIn_iff {needle text : List Char} :
    occursIn needle text = true ↔ ∃ before after, text = before ++ needle ++ after := by
  induction text with
  | nil =>
    cases needle with
    | nil => exact iff_of_true rfl ⟨[], [], rfl⟩
    | cons c rest =>
      refine iff_of_false (by simp [occursIn]) ?_
      rintro ⟨before, after, h⟩
      simp at h
  | cons c rest ih =>
    rw [occursIn, Bool.or_eq_true, ih, List.isPrefixOf_iff_prefix]
    constructor
    · rintro (⟨after, h⟩ | ⟨before, after, h⟩)
      · exact ⟨[], after, by simp [h]⟩
      · exact ⟨c :: before, after, by simp [h]⟩
    · rintro ⟨before, after, h⟩
      cases before with
      | nil => exact Or.inl ⟨after, by simpa using h.symm⟩
      | cons b before =>
        simp only [List.cons_append, List.cons.injEq] at h
        exact Or.inr ⟨before, after, h.2⟩

end CatalogEntities.Text
