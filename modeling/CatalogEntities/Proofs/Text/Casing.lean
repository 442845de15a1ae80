import CatalogEntities.Naming
import CatalogEntities.Proofs.Text.Pieces

/-!
# `Proofs/Text/Casing.lean` — what a change of case cannot bring about

A change of case turns characters into letters or into characters beyond ASCII, and leaves every
other character alone. So no separator — a line feed, a slash, a NUL — ever comes out of a text
that did not have it, and this survives the split into words: a class name holds no separator that
the table's name does not hold.

The Unicode tables are looked at once, as a whole (`upperRuns_proper` and its three siblings);
everything after that is about single characters.

The tables are data that the definitions of `Text/Casing.lean` search, some hundred runs and
expansions, and each is checked by evaluating one decidable question for all of its entries. A new
version of Unicode changes the tables, and with them nothing here but what the four checks evaluate.
Within ASCII no table is used, and facts are checked for all 128 characters (`forall_ascii`).
-/

set_option autoImplicit false

namespace CatalogEntities

namespace Text

/-- A character that no change of case makes: ASCII, and not a letter. -/
def IsSeparator (c : Char) : Prop := c.toNat < 0x80 ∧ c.isAlpha = false

instance (c : Char) : Decidable (IsSeparator c) := inferInstanceAs (Decidable (_ ∧ _))

/-! ## The tables -/

/-- A code point that a change of case may lead to: that of a letter, or of a character beyond
ASCII. -/
def isCaseImage (n : Nat) : Bool := decide n.isValidChar && (0x80 ≤ n || (Char.ofNat n).isAlpha)

/-- Whether all images of a run are case images. A run that leads into ASCII has one member. -/
def CaseRun.isProper (r : CaseRun) : Bool :=
  let bound := r.target + (r.last - r.first)
  (bound < 0xD800 || (0xDFFF < r.target && bound < 0x110000))
    && (0x80 ≤ r.target || (r.first = r.last && (Char.ofNat r.target).isAlpha))

theorem upperRuns_proper : ∀ r ∈ upperRuns, r.isProper = true :=
  List.all_eq_true.1 (by decide +kernel)

theorem lowerRuns_proper : ∀ r ∈ lowerRuns, r.isProper = true :=
  List.all_eq_true.1 (by decide +kernel)

theorem upperExpansions_proper : ∀ e ∈ upperExpansions, e.2.all isCaseImage = true :=
  List.all_eq_true.1 (by decide +kernel)

theorem lowerExpansions_proper : ∀ e ∈ lowerExpansions, e.2.all isCaseImage = true :=
  List.all_eq_true.1 (by decide +kernel)

/-- A proper run leads to case images only. -/
theorem CaseRun.isCaseImage_image {r : CaseRun} (hr : r.isProper = true) {n : Nat}
    (hn : r.has n = true) : isCaseImage (r.image n) = true := by
  simp only [CaseRun.has, Bool.and_eq_true, decide_eq_true_eq] at hn
  simp only [CaseRun.isProper, Bool.and_eq_true, Bool.or_eq_true, decide_eq_true_eq] at hr
  obtain ⟨hvalid, hletter⟩ := hr
  -- an image lies between the target of the run and that of its last member
  have hle : r.image n ≤ r.target + (r.last - r.first) := by
    unfold CaseRun.image
    omega
  have hge : r.target ≤ r.image n := Nat.le_add_right _ _
  simp only [isCaseImage, Bool.and_eq_true, Bool.or_eq_true, decide_eq_true_eq]
  refine ⟨?_, ?_⟩
  · show _ ∨ _
    omega
  · rcases hletter with h | ⟨hone, h⟩
    · exact Or.inl (Nat.le_trans h hge)
    · have himage : r.image n = r.target := by
        unfold CaseRun.image
        omega
      exact Or.inr (himage ▸ h)

/-- No separator has a case image for its code point. -/
theorem IsSeparator.ne_ofNat {c : Char} (hc : IsSeparator c) {n : Nat}
    (hn : isCaseImage n = true) : c ≠ Char.ofNat n := by
  rintro rfl
  simp only [isCaseImage, Bool.and_eq_true, Bool.or_eq_true, decide_eq_true_eq] at hn
  obtain ⟨hvalid, hn⟩ := hn
  have hcode : (Char.ofNat n).toNat = n := by
    rw [Char.ofNat, dif_pos hvalid]
    rfl
  rcases hn with hn | hn
  · exact absurd hc.1 (by rw [hcode]; omega)
  · exact absurd hc.2 (by rw [hn]; exact Bool.noConfusion)

/-! ## Single characters -/

/-- A table of case images keeps every separator out, unless the character is one. -/
theorem IsSeparator.eq_of_mem_mapCase {c d : Char} (hd : IsSeparator d)
    {expansions : List (Nat × List Nat)} {runs : List CaseRun}
    (hexp : ∀ e ∈ expansions, e.2.all isCaseImage = true)
    (hruns : ∀ r ∈ runs, r.isProper = true) (h : d ∈ mapCase expansions runs c) : d = c := by
  unfold mapCase at h
  -- an expansion, the image in a run, or the character itself
  split at h
  · rename_i image hfind
    obtain ⟨n, hn, rfl⟩ := List.mem_map.1 h
    have hall := List.all_eq_true.1 (hexp _ (List.mem_of_find?_eq_some hfind))
    exact absurd rfl (hd.ne_ofNat (hall n hn))
  · split at h
    · rename_i run hfind
      obtain rfl := List.mem_singleton.1 h
      have hproper := hruns _ (List.mem_of_find?_eq_some hfind)
      have hhas : run.has c.toNat = true := by simpa using List.find?_some hfind
      exact absurd rfl (hd.ne_ofNat (run.isCaseImage_image hproper hhas))
    · exact List.mem_singleton.1 h

/-- Changing the case of an ASCII character gives a letter or leaves the character alone. All
ASCII characters are looked at, which is less work than reasoning about code points. -/
theorem toUpper_toLower_ascii : ∀ n < 0x80,
    ((Char.ofNat n).toUpper = Char.ofNat n ∨ (Char.ofNat n).toUpper.isAlpha = true) ∧
      ((Char.ofNat n).toLower = Char.ofNat n ∨ (Char.ofNat n).toLower.isAlpha = true) := by
  decide

/-- **No separator comes out of an upper case**, unless it is the character itself. -/
theorem IsSeparator.eq_of_mem_upper {c d : Char} (hd : IsSeparator d) (h : d ∈ upper c) :
    d = c := by
  unfold upper at h
  split at h
  · rename_i hascii
    obtain rfl := List.mem_singleton.1 h
    rcases (toUpper_toLower_ascii _ hascii).1 with hsame | hletter
    · rwa [Char.ofNat_toNat] at hsame
    · rw [Char.ofNat_toNat, hd.2] at hletter
      exact Bool.noConfusion hletter
  · exact hd.eq_of_mem_mapCase upperExpansions_proper upperRuns_proper h

/-- **No separator comes out of a lower case**, unless it is the character itself. -/
theorem IsSeparator.eq_of_mem_lower {c d : Char} (hd : IsSeparator d) (h : d ∈ lower c) :
    d = c := by
  unfold lower at h
  split at h
  · rename_i hascii
    obtain rfl := List.mem_singleton.1 h
    rcases (toUpper_toLower_ascii _ hascii).2 with hsame | hletter
    · rwa [Char.ofNat_toNat] at hsame
    · rw [Char.ofNat_toNat, hd.2] at hletter
      exact Bool.noConfusion hletter
  · exact hd.eq_of_mem_mapCase lowerExpansions_proper lowerRuns_proper h

/-! ## ASCII

How the two cases of an ASCII character go together. Each time all of the characters are looked at,
which is less work than reasoning about code points. -/

theorem forall_ascii {P : Char → Prop} (h : ∀ n < 0x80, P (Char.ofNat n)) {c : Char}
    (hc : c.toNat < 0x80) : P c := by
  have hcode := h c.toNat hc
  rwa [Char.ofNat_toNat] at hcode

section

variable {c : Char} (hc : c.toNat < 0x80)

include hc

theorem isUpper_toUpper (h : c.isAlpha = true) : c.toUpper.isUpper = true :=
  forall_ascii (P := fun c => c.isAlpha = true → c.toUpper.isUpper = true) (by decide) hc h

theorem isUpper_toLower : c.toLower.isUpper = false :=
  forall_ascii (P := fun c => c.toLower.isUpper = false) (by decide) hc

theorem toNat_toLower_lt : c.toLower.toNat < 0x80 :=
  forall_ascii (P := fun c => c.toLower.toNat < 0x80) (by decide) hc

theorem toUpper_toLower : c.toLower.toUpper = c.toUpper :=
  forall_ascii (P := fun c => c.toLower.toUpper = c.toUpper) (by decide) hc

theorem toLower_toUpper : c.toUpper.toLower = c.toLower :=
  forall_ascii (P := fun c => c.toUpper.toLower = c.toLower) (by decide) hc

theorem toLower_toLower : c.toLower.toLower = c.toLower :=
  forall_ascii (P := fun c => c.toLower.toLower = c.toLower) (by decide) hc

end

/-- In ASCII the lower case of a character is one character, so that of a word is as long as it. -/
theorem flatMap_lower_ascii {word : List Char} (h : ∀ c ∈ word, c.toNat < 0x80) :
    word.flatMap lower = word.map Char.toLower := by
  induction word with
  | nil => rfl
  | cons c rest ih =>
    rw [List.flatMap_cons, List.map_cons, lower_of_ascii (h c List.mem_cons_self),
      ih fun d hd => h d (List.mem_cons_of_mem c hd)]
    rfl

end Text

/-! ## Class names -/

namespace Naming

open Text

/-- Capitalising brings no separators about. -/
theorem mem_of_mem_capitalise {d : Char} (hd : IsSeparator d) {word : List Char}
    (h : d ∈ capitalise word) : d ∈ word := by
  cases word with
  | nil => exact h
  | cons c rest =>
    rcases List.mem_append.1 h with h | h
    · exact List.mem_cons.2 (Or.inl (hd.eq_of_mem_upper h))
    · obtain ⟨r, hr, h⟩ := List.mem_flatMap.1 h
      exact List.mem_cons_of_mem _ (hd.eq_of_mem_lower h ▸ hr)

/-- **A separator in a class name stands in the name of the table.** -/
theorem mem_of_mem_className {d : Char} (hd : IsSeparator d) {table : String}
    (h : d ∈ (className table).toList) : d ∈ table.toList := by
  rw [className, String.toList_ofList] at h
  obtain ⟨word, hword, h⟩ := List.mem_flatMap.1 h
  exact mem_of_mem_splitOn hword (mem_of_mem_capitalise hd h)

end Naming

end CatalogEntities
