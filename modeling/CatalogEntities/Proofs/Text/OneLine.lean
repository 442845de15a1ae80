import CatalogEntities.Naming
import CatalogEntities.Proofs.Text.Casing
import CatalogEntities.Proofs.Text.Reader
import CatalogEntities.Text.Search

/-!
# `Proofs/Text/OneLine.lean` — texts without a line feed

Quoting leaves line feeds as they are, and so does everything else that is written into an entity
file. A text without a line feed therefore stays on the line that it is written on, in whatever
quotes: this is what the lemmas below say, one for each way of writing a text.

Line feeds alone are meant here, since an entity file is cut into lines at these. Carriage returns
as well are counted in `Proofs/Text/LineBreaks.lean`, where the question is how many lines there
are and not which.
-/

set_option autoImplicit false

namespace CatalogEntities

namespace Text

/-- **A text without a line feed.** -/
def OneLine (s : String) : Prop := '\n' ∉ s.toList

instance (s : String) : Decidable (OneLine s) := inferInstanceAs (Decidable (_ ∉ _))

theorem oneLine_append {a b : String} : OneLine (a ++ b) ↔ OneLine a ∧ OneLine b := by
  unfold OneLine
  rw [String.toList_append, List.mem_append, not_or]

theorem OneLine.append {a b : String} (ha : OneLine a) (hb : OneLine b) : OneLine (a ++ b) :=
  oneLine_append.2 ⟨ha, hb⟩

/-- A text is on one line if its pieces are, and what stands between them is. -/
theorem OneLine.intercalate {sep : String} (hsep : OneLine sep) {pieces : List String}
    (hpieces : ∀ p ∈ pieces, OneLine p) : OneLine (sep.intercalate pieces) := by
  intro hmem
  rw [String.toList_intercalate] at hmem
  rcases mem_intercalate hmem with hmem | ⟨piece, hpiece, hmem⟩
  · exact hsep hmem
  · obtain ⟨p, hp, rfl⟩ := List.mem_map.1 hpiece
    exact hpieces p hp hmem

/-! ## Literals -/

/-- An escaped value holds no characters but its own and backslashes. -/
theorem mem_of_mem_escape {q d : Char} {value : List Char} (h : d ∈ escape q value) :
    d = '\\' ∨ d ∈ value := by
  obtain ⟨c, hc, h⟩ := List.mem_flatMap.1 h
  split at h
  · rcases List.mem_cons.1 h with h | h
    · exact Or.inl h
    · exact Or.inr (List.mem_singleton.1 h ▸ hc)
  · exact Or.inr (List.mem_singleton.1 h ▸ hc)

/-- A literal holds its quote besides. -/
theorem mem_of_mem_quoted {q d : Char} {value : List Char} (h : d ∈ quoted q value) :
    d = q ∨ d = '\\' ∨ d ∈ value := by
  unfold quoted at h
  rcases List.mem_append.1 h with h | h
  · rcases List.mem_cons.1 h with h | h
    · exact Or.inl h
    · exact Or.inr (mem_of_mem_escape h)
  · exact Or.inl (List.mem_singleton.1 h)

/-- No quote puts a line feed into a literal. -/
theorem newline_not_mem_quoted {q : Char} (hq : '\n' ≠ q) {value : List Char}
    (h : '\n' ∉ value) : '\n' ∉ quoted q value := by
  intro hmem
  rcases mem_of_mem_quoted hmem with hquote | hbackslash | hvalue
  · exact hq hquote
  · exact absurd hbackslash (by decide)
  · exact h hvalue

theorem OneLine.singleQuoted {s : String} (h : OneLine s) : OneLine (singleQuoted s) := by
  rw [OneLine, toList_singleQuoted]
  exact newline_not_mem_quoted (by decide) h

theorem OneLine.doubleQuoted {s : String} (h : OneLine s) : OneLine (doubleQuoted s) := by
  rw [OneLine, toList_doubleQuoted]
  exact newline_not_mem_quoted (by decide) h

/-! ## Names and numbers -/

theorem OneLine.propertyKey {name : String} (h : OneLine name) :
    OneLine (Naming.propertyKey name) := by
  unfold Naming.propertyKey
  split
  · exact h
  · exact h.singleQuoted

/-- A class name has no line feed that the table's name does not have. -/
theorem OneLine.className {table : String} (h : OneLine table) :
    OneLine (Naming.className table) :=
  fun hmem => h (Naming.mem_of_mem_className (by decide) hmem)

/-- A number is written with numerals. -/
theorem oneLine_toString_int (n : Int) : OneLine (toString n) := by
  intro hmem
  have hnumeral := isNumeral_of_mem_toString hmem
  exact absurd hnumeral (by decide)

/-- A text is what is left of it and the ending that was taken off. -/
theorem eq_append_of_withoutEnding? {ending text rest : String}
    (h : withoutEnding? ending text = some rest) : text = rest ++ ending := by
  obtain ⟨cs, hcs, rfl⟩ := Option.map_eq_some_iff.1 h
  apply String.toList_injective
  rw [String.toList_append, String.toList_ofList]
  exact (List.isSuffixOf?_eq_some_iff_append_eq.1 hcs).symm

/-- What is left of a text when its ending is taken off has no line feed that it did not have. -/
theorem OneLine.of_withoutEnding? {ending text rest : String} (h : OneLine text)
    (hrest : withoutEnding? ending text = some rest) : OneLine rest := by
  rw [eq_append_of_withoutEnding? hrest] at h
  exact (oneLine_append.1 h).1

end Text

end CatalogEntities
