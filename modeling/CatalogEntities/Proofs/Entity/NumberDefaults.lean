import CatalogEntities.Proofs.Decimal.Nearest
import CatalogEntities.Proofs.Entity.Defaults
import CatalogEntities.Proofs.Text.Blank

/-!
# `Proofs/Entity/NumberDefaults.lean` — which defaults are numbers

Two ways of saying that a default is a finite number, neither of them by a reader. It denotes a
number below the bound; or the double nearest to what it denotes has room for its exponent. They
come to the same (`DefaultValue.sortsNumbers`).

White space around a number does not matter. No character of a decimal is white space, so trimming
ends at the decimal and nowhere inside (`DefaultValue.denotes_iff`).

The program reads a double and asks whether it is finite. It never shows the double: a number is
written as its text. So of all of floating point only the bound remains, and it is stated on
rational numbers of any length, where the digits and the exponent of a text may each be far out of
range (`Proofs/Decimal/Value.lean`). That the bound is the one of rounding to nearest is
`Proofs/Decimal/Nearest.lean`.
-/

set_option autoImplicit false

namespace CatalogEntities

open CatalogEntities.Text

/-! ## Decimals have no white space -/

namespace Decimal

/-- The characters of a decimal. Each part of the grammar is made of them, and none is white
space. -/
def IsMark (c : Char) : Prop :=
  c.isDigit = true ∨ c = '+' ∨ c = '-' ∨ c = '.' ∨ c = 'e' ∨ c = 'E'

theorem IsMark.not_blank {c : Char} (h : IsMark c) : isBlank c = false := by
  rcases h with hdigit | rfl | rfl | rfl | rfl | rfl
  · have hall : ∀ n < 58, 48 ≤ n → whiteSpace.has n = false := by decide
    simp only [Char.isDigit, Bool.and_eq_true, decide_eq_true_eq] at hdigit
    have hlow : 48 ≤ c.toNat := hdigit.1
    have hhigh : c.toNat ≤ 57 := hdigit.2
    exact hall c.toNat (by omega) hlow
  all_goals decide

theorem AllDigits.isMark {ds : List Char} (h : AllDigits ds) : ∀ c ∈ ds, IsMark c :=
  fun c hc => .inl (h c hc)

theorem IsSign.isMark {sign : List Char} (h : IsSign sign) : ∀ c ∈ sign, IsMark c := by
  cases h with
  | none => exact fun c hc => absurd hc List.not_mem_nil
  | plus => exact fun c hc => .inr (.inl (List.mem_singleton.1 hc))
  | minus => exact fun c hc => .inr (.inr (.inl (List.mem_singleton.1 hc)))

theorem IsFraction.isMark {digits fraction : List Char} (h : IsFraction digits fraction) :
    ∀ c ∈ fraction, IsMark c := by
  cases h with
  | none => exact fun c hc => absurd hc List.not_mem_nil
  | point hds =>
    intro c hc
    rcases List.mem_cons.1 hc with rfl | hc
    · exact .inr (.inr (.inr (.inl rfl)))
    · exact hds.isMark c hc

theorem IsExponent.isMark {exponent : List Char} (h : IsExponent exponent) :
    ∀ c ∈ exponent, IsMark c := by
  cases h with
  | none => exact fun c hc => absurd hc List.not_mem_nil
  | mark hmark hsign _ hds =>
    intro c hc
    rcases List.mem_cons.1 hc with rfl | hc
    · exact .inr (.inr (.inr (.inr hmark)))
    · rcases List.mem_append.1 hc with hc | hc
      · exact hsign.isMark c hc
      · exact hds.isMark c hc

theorem IsNumeral.isMark {cs : List Char} (h : IsNumeral cs) : ∀ c ∈ cs, IsMark c := by
  cases h with
  | parts hsign hwhole hfraction _ hexponent =>
    intro c hc
    rcases List.mem_append.1 hc with hc | hc
    · exact hsign.isMark c hc
    rcases List.mem_append.1 hc with hc | hc
    · exact hwhole.isMark c hc
    rcases List.mem_append.1 hc with hc | hc
    · exact hfraction.isMark c hc
    · exact hexponent.isMark c hc

theorem Denotes.isNumeral {cs : List Char} {v : ℚ} (h : Denotes cs v) : IsNumeral cs := by
  obtain ⟨d, hread, -⟩ := denotes_iff.1 h
  apply isSome_read?_iff.1
  rw [hread]
  rfl

end Decimal

namespace DefaultValue

/-! ## Texts of numbers -/

/-- **A text denotes a number**: it is a decimal that does, white space around it aside. -/
def Denotes (raw : String) (v : ℚ) : Prop :=
  ∃ before numeral after, raw.toList = before ++ (numeral ++ after) ∧ AllBlank before ∧
    AllBlank after ∧ Decimal.Denotes numeral v

/-- **Trimming finds the number.** -/
theorem denotes_iff {raw : String} {v : ℚ} :
    Denotes raw v ↔ Decimal.Denotes (trim raw.toList) v := by
  constructor
  · rintro ⟨before, numeral, after, hraw, hbefore, hafter, hdenotes⟩
    have hmarks := hdenotes.isNumeral.isMark
    rw [hraw, trim_append hbefore hafter fun c hc => (hmarks c hc).not_blank]
    exact hdenotes
  · intro hdenotes
    obtain ⟨before, after, hbefore, hafter, hraw⟩ := exists_blank_trim raw.toList
    exact ⟨before, _, after, hraw, hbefore, hafter, hdenotes⟩

theorem Denotes.unique {raw : String} {v w : ℚ} (hv : Denotes raw v) (hw : Denotes raw w) :
    v = w :=
  (denotes_iff.1 hv).unique (denotes_iff.1 hw)

theorem not_isNumber_of_isQuotedText {raw : List Char} (h : isQuotedText raw = true) :
    isNumber raw = false := by
  obtain ⟨body, rfl⟩ := isQuotedText_iff.1 h
  rw [Bool.eq_false_iff]
  intro hnumber
  obtain ⟨d, hread, -⟩ := isNumber_iff.1 hnumber
  rw [trim_eq_self (by decide) (by decide)] at hread
  have hnumeral := (Decimal.denotes_iff.2 ⟨d, hread, rfl⟩).isNumeral
  exact hnumeral.ne_quote _ rfl

/-- That quoted texts come first takes no number away. -/
theorem kind_classify_eq_number_iff {raw : String} :
    (classify raw).kind = .number ↔ isNumber raw.toList = true := by
  unfold classify
  split
  · rename_i hquoted
    rw [not_isNumber_of_isQuotedText hquoted]
    exact iff_of_false nofun (by decide)
  split
  · rename_i hnumber
    exact iff_of_true rfl hnumber
  rename_i hnumber
  split
  · exact iff_of_false nofun hnumber
  split
  · exact iff_of_false nofun hnumber
  · exact iff_of_false nofun hnumber

/-- A default is a number if it denotes one below the bound: the first double that is no more finite
would be `2 ^ 1024`, and half the distance below it belongs to the last that is. -/
theorem kind_eq_number_iff_denotes {raw : String} :
    (classify raw).kind = .number ↔ ∃ v, Denotes raw v ∧ |v| < 2 ^ 1024 - 2 ^ 970 := by
  rw [kind_classify_eq_number_iff, isNumber_iff]
  constructor
  · rintro ⟨d, hread, hfinite⟩
    refine ⟨d.value, denotes_iff.2 (Decimal.denotes_iff.2 ⟨d, hread, rfl⟩), ?_⟩
    exact d.isFinite_iff.1 hfinite
  · rintro ⟨v, hdenotes, hbound⟩
    obtain ⟨d, hread, rfl⟩ := Decimal.denotes_iff.1 (denotes_iff.1 hdenotes)
    exact ⟨d, hread, d.isFinite_iff.2 hbound⟩

theorem Denotes.kind_eq_number_iff {raw : String} {v : ℚ} (h : Denotes raw v) :
    (classify raw).kind = .number ↔ |v| < 2 ^ 1024 - 2 ^ 970 := by
  rw [kind_eq_number_iff_denotes]
  constructor
  · rintro ⟨w, hw, hbound⟩
    rwa [h.unique hw]
  · intro hbound
    exact ⟨v, h, hbound⟩

theorem Denotes.exists_isNearest {raw : String} {v : ℚ} (h : Denotes raw v) :
    ∃ x, Double.IsNearest |v| x := by
  obtain ⟨d, -, rfl⟩ := Decimal.denotes_iff.1 (denotes_iff.1 h)
  exact ⟨_, Double.isNearest_ofDecimal d⟩

/-- **Which defaults are numbers.** The same set of texts in two ways, and then the cases at both of
its edges. -/
structure SortsNumbers (raw : String) : Prop where
  /-- Those that denote a number below the bound. -/
  number : (classify raw).kind = .number ↔ ∃ v, Denotes raw v ∧ |v| < 2 ^ 1024 - 2 ^ 970
  /-- A text denotes one number, if any. -/
  unique : ∀ v w, Denotes raw v → Denotes raw w → v = w
  /-- What a text denotes has a nearest double, -/
  nearest : ∀ v, Denotes raw v → ∃ x, Double.IsNearest |v| x
  /-- which has room for its exponent exactly if the text is a number. -/
  room : ∀ v x, Denotes raw v → Double.IsNearest |v| x →
    ((classify raw).kind = .number ↔ x.exponent ≤ 971)
  /-- Numbers that are too large do not count, -/
  overflow : ∀ v, Denotes raw v → 2 ^ 1024 - 2 ^ 970 ≤ |v| → (classify raw).kind ≠ .number
  /-- and numbers that round to zero do. -/
  underflow : ∀ v x, Denotes raw v → Double.IsNearest |v| x → x.significand = 0 →
    (classify raw).kind = .number
  /-- Words that a reader of doubles may know are no numbers, and neither are pieces of a decimal.
  -/
  words : raw ∈ ["inf", "nan", ".", "1e", "1_0"] → (classify raw).kind ≠ .number

/-- **Numbers are the decimals that round to a finite double**, however long they are. -/
theorem sortsNumbers (raw : String) : SortsNumbers raw where
  number := kind_eq_number_iff_denotes
  unique _ _ hv hw := hv.unique hw
  nearest _ hv := hv.exists_isNearest
  room v x hv hx := by
    rw [hv.kind_eq_number_iff, hx.exponent_le_iff]
  overflow v hv hbound := by
    rw [Ne, hv.kind_eq_number_iff, not_lt]
    exact hbound
  underflow v x hv hx hzero := by
    rw [hv.kind_eq_number_iff, ← hx.exponent_le_iff, hx.exponent_of_zero hzero]
    decide
  words hraw := by
    have hall : ∀ word ∈ ["inf", "nan", ".", "1e", "1_0"], (classify word).kind ≠ .number := by
      decide +kernel
    exact hall raw hraw

/-- The digits and the exponent may both be out of range as long as their product is not. -/
example : (classify " -0.0001e312\n").kind = .number := by decide +kernel

example : (classify "1e309").kind = .expression := by decide +kernel

end DefaultValue

end CatalogEntities
