import CatalogEntities.Proofs.Decimal
import Mathlib.Algebra.Order.Field.Power
import Mathlib.Data.Nat.Digits.Defs
import Mathlib.Tactic.NormNum
import Mathlib.Tactic.Positivity
import Mathlib.Tactic.Ring
import Mathlib.Tactic.FieldSimp
import Mathlib.Tactic.Linarith

/-!
# `Proofs/Decimal/Value.lean` — what a numeral denotes

The grammar of decimal numbers again, now with values: `Denotes` says which rational number a text
denotes, part by part and without a reader. Reading a text gives that number (`denotes_iff`),
however many digits its parts have.

`Decimal.isFinite` compares natural numbers and forms a power of ten only where it has to.
`isFinite_iff` says that it asks what it should: whether the number is below the bound.

The reader collects its digits from the left, one multiplication for each, and the value of digits
is defined from the right, by `Nat.ofDigits`, where the library has the lemmas on putting lists
together. `ofDigits_eq` goes from one to the other, and nothing else depends on the reader's way.
-/

set_option autoImplicit false

namespace CatalogEntities.Decimal

/-! ## Values -/

/-- **The natural number that digits denote**, the first of them the most significant. -/
def digitsValue (ds : List Char) : ℕ :=
  Nat.ofDigits 10 (ds.reverse.map fun c => c.toNat - '0'.toNat)

/-- What a sign contributes: only the minus counts. -/
def signValue (sign : List Char) : ℤ := if sign = ['-'] then -1 else 1

/-- An exponent with its value; where there is none it is zero. -/
inductive HasExponent : List Char → ℤ → Prop
  | none : HasExponent [] 0
  | mark {mark : Char} {sign ds : List Char} (hmark : mark = 'e' ∨ mark = 'E')
      (hsign : IsSign sign) (hsome : ds ≠ []) (hds : AllDigits ds) :
      HasExponent (mark :: (sign ++ ds)) (signValue sign * digitsValue ds)

/-- **The number that a text denotes.** The digits behind the point are worth as much less as there
are of them, and the exponent moves the whole. -/
inductive Denotes : List Char → ℚ → Prop
  | parts {sign whole digits fraction exponent : List Char} {e : ℤ} (hsign : IsSign sign)
      (hwhole : AllDigits whole) (hfraction : IsFraction digits fraction)
      (hsome : whole ≠ [] ∨ digits ≠ []) (hexponent : HasExponent exponent e) :
      Denotes (sign ++ (whole ++ (fraction ++ exponent)))
        (signValue sign * (digitsValue whole + digitsValue digits / 10 ^ digits.length) * 10 ^ e)

/-- The number that a decimal is: its digits without a point, at the place that its exponent
tells. -/
def value (d : Decimal) : ℚ := (if d.negative then -1 else 1) * d.digits * 10 ^ d.exponent

theorem HasExponent.isExponent {exponent : List Char} {e : ℤ} (h : HasExponent exponent e) :
    IsExponent exponent := by
  cases h with
  | none => exact .none
  | mark hmark hsign hsome hds => exact .mark hmark hsign hsome hds

theorem IsExponent.exists_value {exponent : List Char} (h : IsExponent exponent) :
    ∃ e, HasExponent exponent e := by
  cases h with
  | none => exact ⟨_, .none⟩
  | mark hmark hsign hsome hds => exact ⟨_, .mark hmark hsign hsome hds⟩

/-! ## Digits -/

theorem ofDigits_append_singleton (ds : List Char) (c : Char) :
    ofDigits (ds ++ [c]) = 10 * ofDigits ds + (c.toNat - '0'.toNat) := by
  rw [ofDigits, List.foldl_append]
  rfl

theorem ofDigits_lt {ds : List Char} (h : AllDigits ds) : ofDigits ds < 10 ^ ds.length := by
  induction ds using List.reverseRecOn with
  | nil => exact Nat.one_pos
  | append_singleton ds c ih =>
    have hds := ih fun d hd => h d (List.mem_append_left _ hd)
    have hc : c.toNat - '0'.toNat < 10 := by
      have hdigit := h c (List.mem_append_right _ (List.mem_singleton_self c))
      simp only [Char.isDigit, Bool.and_eq_true, decide_eq_true_eq] at hdigit
      have hle : c.toNat ≤ 57 := hdigit.2
      have hzero : '0'.toNat = 48 := rfl
      omega
    rw [ofDigits_append_singleton, List.length_append, List.length_singleton, pow_succ]
    omega

/-- Further digits make no number smaller. -/
theorem ofDigits_le_append (whole digits : List Char) :
    ofDigits whole ≤ ofDigits (whole ++ digits) := by
  induction digits using List.reverseRecOn with
  | nil => rw [List.append_nil]
  | append_singleton digits c ih =>
    rw [← List.append_assoc, ofDigits_append_singleton]
    omega

/-- Digits that are read from the left denote what they denote from the right. -/
theorem ofDigits_eq (ds : List Char) : ofDigits ds = digitsValue ds := by
  induction ds using List.reverseRecOn with
  | nil => rfl
  | append_singleton ds c ih =>
    rw [ofDigits_append_singleton, ih, digitsValue, digitsValue, List.reverse_append]
    simp only [List.reverse_cons, List.reverse_nil, List.nil_append, List.singleton_append,
      List.map_cons, Nat.ofDigits_cons]
    omega

/-- Digits put behind others move these up. -/
theorem digitsValue_append (whole digits : List Char) :
    digitsValue (whole ++ digits) =
      digitsValue whole * 10 ^ digits.length + digitsValue digits := by
  rw [digitsValue, List.reverse_append, List.map_append, Nat.ofDigits_append, List.length_map,
    List.length_reverse]
  simp only [digitsValue]
  ring

/-! ## Reading -/

theorem takeSign_append {sign rest : List Char} (hsign : IsSign sign)
    (hrest : ∀ c ∈ rest.head?, c ≠ '+' ∧ c ≠ '-') :
    takeSign (sign ++ rest) = (decide (sign = ['-']), rest) := by
  cases hsign with
  | none =>
    rw [List.nil_append]
    unfold takeSign
    split
    · exact absurd rfl (hrest '+' rfl).1
    · exact absurd rfl (hrest '-' rfl).2
    · rfl
  | plus => rfl
  | minus => rfl

/-- An exponent is read with its value, sign and all. -/
theorem HasExponent.readExponent_eq {exponent : List Char} {e : ℤ} (h : HasExponent exponent e) :
    readExponent exponent = some e := by
  cases h with
  | none => rfl
  | @mark mark sign ds hmark hsign hsome hds =>
    have hhead : ∀ c ∈ ds.head?, c ≠ '+' ∧ c ≠ '-' := by
      intro c hc
      apply hds.head_not_sign hsome c
      rwa [List.append_nil]
    have hall : ds.all Char.isDigit = true := List.all_eq_true.2 hds
    have hempty : ds.isEmpty = false := by simpa using hsome
    simp only [readExponent, takeSign_append hsign hhead, hall, hempty, ofDigits_eq, signValue]
    rw [if_pos (by simpa using hmark), if_neg (by simp)]
    by_cases hminus : sign = ['-']
    · simp [hminus]
    · simp [hminus]

section

variable {sign whole digits fraction exponent : List Char} {e : ℤ}

/-- **Reading takes every part for what it is.** -/
theorem read?_parts (hsign : IsSign sign) (hwhole : AllDigits whole)
    (hfraction : IsFraction digits fraction) (hsome : whole ≠ [] ∨ digits ≠ [])
    (hexponent : HasExponent exponent e) :
    read? (sign ++ (whole ++ (fraction ++ exponent))) =
      some ⟨decide (sign = ['-']), digitsValue (whole ++ digits), e - digits.length⟩ := by
  have hmark := hexponent.isExponent
  have hdigit := hfraction.head_not_digit hmark
  simp only [read?]
  rw [takeSign_append hsign (head_not_sign hwhole hfraction hsome)]
  dsimp only
  rw [hwhole.takeWhile_append hdigit, hwhole.dropWhile_append hdigit,
    hfraction.takeFraction_append hmark, hexponent.readExponent_eq, ofDigits_eq, if_neg,
    Option.map_some]
  simp only [Bool.and_eq_true, List.isEmpty_iff]
  exact fun hnone => hsome.elim (fun h => h hnone.1) fun h => h hnone.2

/-- The decimal that is read from the parts is the number that they denote. -/
theorem value_parts (sign whole digits : List Char) (e : ℤ) :
    value ⟨decide (sign = ['-']), digitsValue (whole ++ digits), e - digits.length⟩ =
      signValue sign * (digitsValue whole + digitsValue digits / 10 ^ digits.length) * 10 ^ e := by
  have hsign : (if decide (sign = ['-']) = true then (-1 : ℚ) else 1) = signValue sign := by
    unfold signValue
    by_cases hminus : sign = ['-']
    · simp [hminus]
    · simp [hminus]
  have hpower : (10 : ℚ) ^ (e - digits.length) = 10 ^ e / 10 ^ digits.length := by
    rw [zpow_sub₀ (by norm_num), zpow_natCast]
  rw [value, hsign, hpower, digitsValue_append]
  push_cast
  field_simp

end

/-- **A text denotes the number that is read from it**, and no other. In the second direction the
grammar gives the parts (`isSome_read?_iff`), and only their values are new. -/
theorem denotes_iff {cs : List Char} {v : ℚ} :
    Denotes cs v ↔ ∃ d, read? cs = some d ∧ d.value = v := by
  constructor
  · intro h
    cases h with
    | parts hsign hwhole hfraction hsome hexponent =>
      exact ⟨_, read?_parts hsign hwhole hfraction hsome hexponent, value_parts ..⟩
  · rintro ⟨d, hread, rfl⟩
    have hnumeral : IsNumeral cs := by
      apply isSome_read?_iff.1
      rw [hread]
      rfl
    cases hnumeral with
    | @parts sign whole digits _ _ hsign hwhole hfraction hsome hexponent =>
      obtain ⟨e, he⟩ := hexponent.exists_value
      rw [read?_parts hsign hwhole hfraction hsome he] at hread
      rw [← Option.some.inj hread, value_parts]
      exact .parts hsign hwhole hfraction hsome he

theorem Denotes.unique {cs : List Char} {v w : ℚ} (hv : Denotes cs v) (hw : Denotes cs w) :
    v = w := by
  obtain ⟨d, hd, rfl⟩ := denotes_iff.1 hv
  obtain ⟨other, hother, rfl⟩ := denotes_iff.1 hw
  rw [hd] at hother
  rw [Option.some.inj hother]

/-! ## The bound -/

theorem one_lt_overflow : 1 < overflow := by decide +kernel

theorem overflow_le : overflow ≤ 10 ^ 309 := by decide +kernel

/-- The bound is half way between the largest double and the next power of two. -/
theorem cast_overflow : (overflow : ℚ) = 2 ^ 1024 - 2 ^ 970 := by
  have hle : ∀ m n, m ≤ n → Nat.pow 2 m ≤ Nat.pow 2 n :=
    fun _ _ h => Nat.pow_le_pow_right (by decide) h
  have hpower : ∀ n, ((Nat.pow 2 n : ℕ) : ℚ) = 2 ^ n := fun n => Nat.cast_pow 2 n
  rw [overflow, Nat.cast_sub (hle 970 1024 (by decide)), hpower 1024, hpower 970]

theorem abs_value (d : Decimal) : |d.value| = d.digits * 10 ^ d.exponent := by
  have hpower : (0 : ℚ) ≤ d.digits * 10 ^ d.exponent := by positivity
  rw [value, mul_assoc]
  cases d.negative with
  | false => rw [if_neg Bool.false_ne_true, one_mul, abs_of_nonneg hpower]
  | true => rw [if_pos rfl, neg_one_mul, abs_neg, abs_of_nonneg hpower]

/-- The magnitude of a decimal without places. -/
theorem abs_value_of_nonneg {d : Decimal} (h : 0 ≤ d.exponent) :
    |d.value| = (d.digits * 10 ^ d.exponent.toNat : ℕ) := by
  have hexponent : ((d.exponent.toNat : ℕ) : ℤ) = d.exponent := Int.toNat_of_nonneg h
  rw [abs_value, ← hexponent, zpow_natCast]
  push_cast
  rfl

/-- The magnitude of a decimal with places. -/
theorem abs_value_of_neg {d : Decimal} (h : d.exponent < 0) :
    |d.value| = d.digits / (10 ^ (-d.exponent).toNat : ℕ) := by
  have hexponent : d.exponent = -((-d.exponent).toNat : ℤ) := by omega
  rw [abs_value, hexponent, zpow_neg, zpow_natCast, ← hexponent, div_eq_mul_inv]
  push_cast
  rfl

theorem digits_lt_ten_pow {d : Decimal} {places : ℕ} (h : d.digits.log2 < places) :
    d.digits < 10 ^ places := by
  calc d.digits < 2 ^ (d.digits.log2 + 1) := Nat.lt_log2_self
    _ ≤ 2 ^ places := Nat.pow_le_pow_right (by decide) h
    _ ≤ 10 ^ places := Nat.pow_le_pow_left (by decide) places

/-- **A decimal is finite exactly if it is below the bound**, and so rounds to a double below
`2^1024`. -/
theorem isFinite_iff (d : Decimal) : d.isFinite = true ↔ |d.value| < 2 ^ 1024 - 2 ^ 970 := by
  unfold isFinite
  split
  · -- zero
    rename_i hzero
    rw [abs_value, hzero, ← cast_overflow, Nat.cast_zero, zero_mul, Nat.cast_pos]
    exact iff_of_true rfl (Nat.zero_lt_of_lt one_lt_overflow)
  rename_i hzero
  split
  · -- no places: the number is whole
    rename_i hsign
    rw [abs_value_of_nonneg hsign, ← cast_overflow, Nat.cast_lt, Bool.and_eq_true,
      decide_eq_true_eq, decide_eq_true_eq]
    constructor
    · exact And.right
    · intro hlt
      refine ⟨?_, hlt⟩
      -- a larger exponent overflows whatever the digits are
      by_contra hlarge
      have hexponent : 309 ≤ d.exponent.toNat := by omega
      have hpower : ∀ n, n ≤ d.exponent.toNat → 10 ^ n ≤ 10 ^ d.exponent.toNat :=
        fun _ h => Nat.pow_le_pow_right (by decide) h
      have hproduct : 10 ^ d.exponent.toNat ≤ d.digits * 10 ^ d.exponent.toNat :=
        Nat.le_mul_of_pos_left _ (Nat.pos_of_ne_zero hzero)
      exact absurd hlt (Nat.not_lt.2 (overflow_le.trans ((hpower 309 hexponent).trans hproduct)))
  · -- places: both sides are multiplied by the power of ten, unless the number is below one anyway
    rename_i hsign
    have hneg : d.exponent < 0 := by omega
    rw [abs_value_of_neg hneg]
    have hpower : (0 : ℚ) < (10 ^ (-d.exponent).toNat : ℕ) := by positivity
    rw [div_lt_iff₀ hpower, ← cast_overflow, ← Nat.cast_mul, Nat.cast_lt]
    dsimp only
    rw [Bool.or_eq_true, decide_eq_true_eq, decide_eq_true_eq]
    constructor
    · rintro (hfew | hlt)
      · -- a number below one
        have hdigits := digits_lt_ten_pow hfew
        calc d.digits < 10 ^ (-d.exponent).toNat := hdigits
          _ ≤ overflow * 10 ^ (-d.exponent).toNat :=
            Nat.le_mul_of_pos_left _ (Nat.zero_lt_of_lt one_lt_overflow)
      · exact hlt
    · exact Or.inr

end CatalogEntities.Decimal
