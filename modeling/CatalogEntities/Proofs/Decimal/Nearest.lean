import CatalogEntities.Decimal.Double
import CatalogEntities.Proofs.Decimal.Value

/-!
# `Proofs/Decimal/Nearest.lean` — rounding to the nearest double

A double is **nearest** to a number if no other is nearer, and if another is as near then its
significand is even (`Double.IsNearest`). The exponent may grow beyond what a double has room for;
where it does, the number overflows. That happens exactly from the bound on that decimals are
compared with (`IsNearest.exponent_le_iff`), and this follows from the definition alone.

That there is such a double is another matter, and a question about an algorithm: `Double.ofDecimal`
finds it (`isNearest_ofDecimal`). The quotient is brought into units of `2^e` that make it a number
of 53 bits, and rounded there. Doubles of a higher exponent are whole numbers of these units, and
those of a lower one are too small to matter (`exists_units`).

Signs are left out throughout: a number and its negative round alike, so everything is about
absolute values. The numbers are rational and the exponents integers, so that nothing depends on how
large either is. The only place where the range of exponents enters is the bound, told in half
places of the largest doubles (`halfPlace`), where it becomes linear arithmetic.
-/

set_option autoImplicit false

namespace CatalogEntities.Double

/-- The number that a double is, but for the sign. -/
def absValue (x : Double) : ℚ := x.significand * 2 ^ x.exponent

/-- At most 53 bits, and an exponent that is not too small. -/
structure Fits (x : Double) : Prop where
  /-- The bits that a significand has room for, -/
  significand_lt : x.significand < 2 ^ 53
  /-- and the exponent of the smallest double there is. -/
  le_exponent : minExponent ≤ x.exponent

/-- **The double nearest to a number**, the even one of two. -/
structure IsNearest (q : ℚ) (x : Double) : Prop where
  /-- It is a double, if the exponent may be as large as it likes. -/
  fits : x.Fits
  /-- Of the ways to write it, the one with the smallest exponent. -/
  normal : x.exponent = minExponent ∨ 2 ^ 52 ≤ x.significand
  /-- No other is nearer, -/
  nearest : ∀ y : Double, y.Fits → |q - x.absValue| ≤ |q - y.absValue|
  /-- and if another is as near, this one is even. -/
  even : ∀ y : Double, y.Fits → y.absValue ≠ x.absValue →
    |q - y.absValue| = |q - x.absValue| → x.significand % 2 = 0

/-! ## Where numbers overflow -/

theorem two_zpow_pos (e : ℤ) : (0 : ℚ) < 2 ^ e := by positivity

theorem two_zpow_le {e f : ℤ} (h : e ≤ f) : (2 : ℚ) ^ e ≤ 2 ^ f :=
  zpow_le_zpow_right₀ (by norm_num) h

theorem cast_two_pow (n : ℕ) : ((2 ^ n : ℕ) : ℚ) = 2 ^ n := Nat.cast_pow 2 n

/-- The largest double. -/
def largest : Double := ⟨false, 2 ^ 53 - 1, 971⟩

/-- What would follow the largest double. -/
def beyond : Double := ⟨false, 2 ^ 52, 972⟩

theorem fits_largest : largest.Fits := ⟨by decide, by decide⟩

theorem fits_beyond : beyond.Fits := ⟨by decide, by decide⟩

/-- The unit in which the bound is told: half of the last place of the largest doubles. -/
def halfPlace : ℚ := 2 ^ (970 : ℤ)

theorem two_zpow_add (n : ℕ) : (2 : ℚ) ^ (970 + n : ℤ) = 2 ^ n * halfPlace := by
  rw [zpow_add₀ (by norm_num), zpow_natCast, mul_comm]
  rfl

theorem absValue_largest : largest.absValue = (2 ^ 54 - 2) * halfPlace := by
  have hplace : (2 : ℚ) ^ (971 : ℤ) = 2 ^ 1 * halfPlace := two_zpow_add 1
  have hbits : ((2 ^ 53 - 1 : ℕ) : ℚ) = 2 ^ 53 - 1 := by norm_num
  rw [absValue, largest]
  dsimp only
  rw [hplace, hbits]
  ring

theorem absValue_beyond : beyond.absValue = 2 ^ 54 * halfPlace := by
  have hplace : (2 : ℚ) ^ (972 : ℤ) = 2 ^ 2 * halfPlace := two_zpow_add 2
  rw [absValue, beyond]
  dsimp only
  rw [hplace, cast_two_pow]
  ring

theorem bound_eq : (2 : ℚ) ^ 1024 - 2 ^ 970 = (2 ^ 54 - 1) * halfPlace := by
  have hsmall : (2 : ℚ) ^ 970 = halfPlace := (zpow_natCast 2 970).symm
  have hlarge : (2 : ℚ) ^ 1024 = 2 ^ 54 * halfPlace := by
    rw [← two_zpow_add, ← zpow_natCast]
    rfl
  rw [hsmall, hlarge]
  ring

section

variable {q : ℚ} {x : Double}

/-- What has room for its exponent is no larger than the largest double. -/
theorem Fits.absValue_le (h : x.Fits) (hexponent : x.exponent ≤ 971) :
    x.absValue ≤ x.significand * (2 * halfPlace) ∧ x.absValue ≤ largest.absValue := by
  have hpower : (2 : ℚ) ^ x.exponent ≤ 2 * halfPlace := by
    have hplace : (2 : ℚ) ^ (971 : ℤ) = 2 ^ 1 * halfPlace := two_zpow_add 1
    calc (2 : ℚ) ^ x.exponent ≤ 2 ^ (971 : ℤ) := two_zpow_le hexponent
      _ = 2 * halfPlace := by rw [hplace, pow_one]
  have hunit : (0 : ℚ) < 2 * halfPlace := (two_zpow_pos x.exponent).trans_le hpower
  have hsignificand : (x.significand : ℚ) ≤ 2 ^ 53 - 1 := by
    have hlt := h.significand_lt
    have hle : ((x.significand + 1 : ℕ) : ℚ) ≤ (2 ^ 53 : ℕ) := Nat.cast_le.2 hlt
    push_cast at hle
    linarith
  have hown : x.absValue ≤ x.significand * (2 * halfPlace) :=
    mul_le_mul_of_nonneg_left hpower (Nat.cast_nonneg _)
  refine ⟨hown, hown.trans ?_⟩
  rw [absValue_largest]
  calc (x.significand : ℚ) * (2 * halfPlace) ≤ (2 ^ 53 - 1) * (2 * halfPlace) :=
        mul_le_mul_of_nonneg_right hsignificand hunit.le
    _ = (2 ^ 54 - 2) * halfPlace := by ring

/-- From the bound on, the largest double is too far away: half way to the next power of two the
even neighbour is that power. -/
theorem IsNearest.lt_bound (h : IsNearest q x) (hexponent : x.exponent ≤ 971) :
    q < (2 ^ 54 - 1) * halfPlace := by
  have hunit : 0 < halfPlace := two_zpow_pos 970
  obtain ⟨hown, hlargest⟩ := h.fits.absValue_le hexponent
  have hnearest := h.nearest beyond fits_beyond
  rw [absValue_largest] at hlargest
  rw [absValue_beyond] at hnearest
  -- from the bound on, what would follow the largest double is at least as near as it
  by_contra hbound
  rw [not_lt] at hbound
  rw [abs_of_pos (by linarith)] at hnearest
  have hbelow : q ≤ 2 ^ 54 * halfPlace := by
    by_contra habove
    rw [abs_of_pos (by linarith)] at hnearest
    linarith
  rw [abs_of_nonpos (by linarith)] at hnearest
  -- the number is the bound and the double is the largest, which is odd
  have hq : q = (2 ^ 54 - 1) * halfPlace := by linarith
  have hx : x.absValue = (2 ^ 54 - 2) * halfPlace := by linarith
  have heven : x.significand % 2 = 0 := by
    apply h.even beyond fits_beyond
    · rw [absValue_beyond, hx]
      intro heq
      linarith
    · rw [absValue_beyond, hx, hq, abs_of_neg (by linarith), abs_of_pos (by linarith)]
      ring
  -- but its significand has all 53 bits, and is odd
  have hsignificand : (2 ^ 53 - 1 : ℚ) ≤ x.significand := by
    have hscaled : (2 ^ 53 - 1) * (2 * halfPlace) ≤ x.significand * (2 * halfPlace) := by
      linarith
    exact le_of_mul_le_mul_right hscaled (by linarith)
  have hle : 2 ^ 53 ≤ x.significand + 1 := by
    have hcast : ((2 ^ 53 : ℕ) : ℚ) ≤ (x.significand + 1 : ℕ) := by
      push_cast
      linarith
    exact Nat.cast_le.1 hcast
  have hlt := h.fits.significand_lt
  omega

/-- Doubles that have no room are at least the next power of two. -/
theorem IsNearest.beyond_le (h : IsNearest q x) (hexponent : 971 < x.exponent) :
    2 ^ 54 * halfPlace ≤ x.absValue := by
  have hbits : (2 ^ 52 : ℚ) ≤ x.significand := by
    rcases h.normal with hlowest | hbits
    · rw [hlowest] at hexponent
      exact absurd hexponent (by decide)
    · have hcast : ((2 ^ 52 : ℕ) : ℚ) ≤ x.significand := Nat.cast_le.2 hbits
      rwa [cast_two_pow] at hcast
  rw [← absValue_beyond, absValue, absValue, beyond]
  dsimp only
  rw [cast_two_pow]
  exact mul_le_mul hbits (two_zpow_le hexponent) (two_zpow_pos _).le (Nat.cast_nonneg _)

/-- **No room for the exponent is needed below the bound, and only there.** -/
theorem IsNearest.exponent_le_iff (h : IsNearest q x) :
    x.exponent ≤ 971 ↔ q < 2 ^ 1024 - 2 ^ 970 := by
  rw [bound_eq]
  constructor
  · exact h.lt_bound
  · -- below the bound the largest double is nearer than anything beyond it
    intro hbound
    by_contra hexponent
    have hunit : 0 < halfPlace := two_zpow_pos 970
    have hx := h.beyond_le (not_le.1 hexponent)
    have hnearest := h.nearest largest fits_largest
    rw [absValue_largest, abs_of_neg (by linarith)] at hnearest
    rcases le_total ((2 ^ 54 - 2) * halfPlace) q with hq | hq
    · rw [abs_of_nonneg (by linarith)] at hnearest
      linarith
    · rw [abs_of_nonpos (by linarith)] at hnearest
      linarith

theorem IsNearest.exponent_of_zero (h : IsNearest q x) (hzero : x.significand = 0) :
    x.exponent = minExponent := by
  rcases h.normal with hlowest | hbits
  · exact hlowest
  · rw [hzero] at hbits
    exact absurd hbits (by decide)

end

/-! ## Rounding to whole numbers -/

theorem cast_div_eq {a b : ℕ} (hb : 0 < b) :
    (a / b : ℚ) = (a / b : ℕ) + (a % b : ℕ) / b := by
  have hb' : (0 : ℚ) < b := Nat.cast_pos.2 hb
  have hsum : ((b * (a / b) + a % b : ℕ) : ℚ) = a := by rw [Nat.div_add_mod]
  push_cast at hsum
  field_simp
  linarith

/-- A remainder is compared with one half as twice the remainder is with the divisor. -/
theorem div_lt_half_iff {r b : ℕ} (hb : 0 < b) : (r / b : ℚ) < 1 / 2 ↔ 2 * r < b := by
  have hb' : (0 : ℚ) < b := Nat.cast_pos.2 hb
  rw [div_lt_div_iff₀ hb' two_pos, one_mul, mul_comm]
  norm_cast

theorem half_lt_div_iff {r b : ℕ} (hb : 0 < b) : 1 / 2 < (r / b : ℚ) ↔ b < 2 * r := by
  have hb' : (0 : ℚ) < b := Nat.cast_pos.2 hb
  rw [div_lt_div_iff₀ two_pos hb', one_mul, mul_comm (r : ℚ)]
  norm_cast

/-- **A quotient is rounded to a whole number that is at most one half away**, and in the middle to
an even one. -/
theorem divideEven_spec {a b : ℕ} (hb : 0 < b) :
    |(a / b : ℚ) - divideEven a b| ≤ 1 / 2 ∧
      (|(a / b : ℚ) - divideEven a b| = 1 / 2 → divideEven a b % 2 = 0) := by
  have hb' : (0 : ℚ) < b := Nat.cast_pos.2 hb
  have hrest : (a % b : ℕ) < (b : ℚ) := Nat.cast_lt.2 (Nat.mod_lt a hb)
  rw [cast_div_eq hb]
  unfold divideEven
  dsimp only
  -- the remainder is less than half of the divisor, more than half, or half of it
  split
  · rename_i hlow
    have hhalf := (div_lt_half_iff hb).2 hlow
    have hnonneg : (0 : ℚ) ≤ ((a % b : ℕ) : ℚ) / b := by positivity
    rw [add_sub_cancel_left, abs_of_nonneg hnonneg]
    exact ⟨hhalf.le, fun htie => absurd htie hhalf.ne⟩
  rename_i hlow
  split
  · rename_i hhigh
    have hhalf := (half_lt_div_iff hb).2 hhigh
    have hone : ((a % b : ℕ) : ℚ) / b < 1 := (div_lt_one hb').2 hrest
    push_cast
    rw [add_sub_add_left_eq_sub, abs_of_neg (by linarith)]
    constructor
    · linarith
    · intro htie
      linarith
  · rename_i hhigh
    have hhalf : ((a % b : ℕ) : ℚ) / b = 1 / 2 :=
      le_antisymm (not_lt.1 (mt (half_lt_div_iff hb).1 hhigh))
        (not_lt.1 (mt (div_lt_half_iff hb).1 hlow))
    rw [hhalf]
    split
    · rename_i heven
      rw [add_sub_cancel_left, abs_of_pos (by norm_num)]
      exact ⟨le_refl _, fun _ => heven⟩
    · rename_i hodd
      push_cast
      rw [add_sub_add_left_eq_sub]
      refine ⟨by norm_num, fun _ => ?_⟩
      omega

/-- What is at most one half away is nearest, and no other whole number is as near but where it is
one half away. -/
theorem le_abs_sub_of_half {t : ℚ} {m : ℕ} (h : |t - m| ≤ 1 / 2) (k : ℕ) :
    |t - m| ≤ |t - k| ∧ (k ≠ m → |t - k| = |t - m| → |t - m| = 1 / 2) := by
  by_cases hk : k = m
  · rw [hk]
    exact ⟨le_refl _, fun hne => absurd rfl hne⟩
  · -- two whole numbers are one apart, so not both are less than one half away
    have hone : (1 : ℚ) ≤ |(k : ℚ) - m| := by
      have hint : (1 : ℤ) ≤ |(k : ℤ) - m| := by
        apply Int.one_le_abs
        omega
      exact_mod_cast hint
    have htriangle : |(k : ℚ) - m| ≤ |t - m| + |t - k| := by
      have hsum := abs_sub_le (k : ℚ) t m
      rw [abs_sub_comm (k : ℚ) t] at hsum
      linarith
    constructor
    · linarith
    · intro _ htie
      linarith

/-! ## Units of a power of two -/

section

variable {q : ℚ} {e : ℤ}

theorem abs_sub_mul_two_zpow (q : ℚ) (e : ℤ) (k : ℕ) :
    |q - k * 2 ^ e| = |q / 2 ^ e - k| * 2 ^ e := by
  have hpos := two_zpow_pos e
  rw [← abs_of_pos hpos, ← abs_mul, abs_of_pos hpos, sub_mul, div_mul_cancel₀ _ hpos.ne']

/-- **A double is a whole number of units, or its exponent is smaller.** Then it is below every
quotient that has 53 bits in these units. -/
theorem exists_units {y : Double} (hy : y.Fits)
    (hlow : e = minExponent ∨ 2 ^ 52 ≤ q / 2 ^ e) :
    (∃ k : ℕ, y.absValue = k * 2 ^ e) ∨
      (y.absValue < 2 ^ 52 * 2 ^ e ∧ 2 ^ 52 * 2 ^ e ≤ q) := by
  rcases le_or_gt e y.exponent with he | he
  · -- the larger exponent is made up for by a larger significand
    left
    refine ⟨y.significand * 2 ^ (y.exponent - e).toNat, ?_⟩
    have hexponent : y.exponent = (y.exponent - e).toNat + e := by omega
    rw [absValue]
    conv_lhs => rw [hexponent, zpow_add₀ (by norm_num), zpow_natCast]
    push_cast
    ring
  · right
    constructor
    · have hpower : (2 : ℚ) ^ y.exponent ≤ 2 ^ (e - 1) := two_zpow_le (by omega)
      have hbits : (y.significand : ℚ) < 2 ^ 53 := by
        have hcast : (y.significand : ℚ) < (2 ^ 53 : ℕ) := Nat.cast_lt.2 hy.significand_lt
        rwa [cast_two_pow] at hcast
      calc (y.significand : ℚ) * 2 ^ y.exponent ≤ y.significand * 2 ^ (e - 1) :=
            mul_le_mul_of_nonneg_left hpower (Nat.cast_nonneg _)
        _ < 2 ^ 53 * 2 ^ (e - 1) := mul_lt_mul_of_pos_right hbits (two_zpow_pos _)
        _ = 2 ^ 52 * 2 ^ e := by
            rw [zpow_sub₀ (by norm_num), zpow_one]
            ring
    · rcases hlow with hlowest | hbits
      · have hle := hy.le_exponent
        omega
      · exact (le_div_iff₀ (two_zpow_pos e)).1 hbits

/-- **Nothing that fits is nearer than the nearest whole number of units.** -/
theorem le_abs_sub_of_units {m : ℕ} (hlow : e = minExponent ∨ 2 ^ 52 ≤ q / 2 ^ e)
    (hm : |q / 2 ^ e - m| ≤ 1 / 2) {y : Double} (hy : y.Fits) :
    |q - m * 2 ^ e| ≤ |q - y.absValue| ∧
      (y.absValue ≠ m * 2 ^ e → |q - y.absValue| = |q - m * 2 ^ e| →
        |q / 2 ^ e - m| = 1 / 2) := by
  have hpos := two_zpow_pos e
  rcases exists_units hy hlow with ⟨k, hk⟩ | ⟨hbelow, hq⟩
  · obtain ⟨hle, htie⟩ := le_abs_sub_of_half hm k
    rw [hk, abs_sub_mul_two_zpow, abs_sub_mul_two_zpow]
    refine ⟨mul_le_mul_of_nonneg_right hle hpos.le, ?_⟩
    intro hne heq
    apply htie
    · rintro rfl
      exact hne rfl
    · exact mul_right_cancel₀ hpos.ne' heq
  · -- the least number of 53 bits is nearer than anything below it
    have hleast := mul_le_mul_of_nonneg_right (le_abs_sub_of_half hm (2 ^ 52)).1 hpos.le
    rw [← abs_sub_mul_two_zpow, ← abs_sub_mul_two_zpow, cast_two_pow,
      abs_of_nonneg (sub_nonneg.2 hq)] at hleast
    have hown : |q - y.absValue| = q - y.absValue := abs_of_pos (by linarith)
    rw [hown]
    constructor
    · linarith
    · intro _ heq
      linarith

/-- **Rounding in units of a power of two.** A significand of 54 bits is halved. -/
theorem isNearest_of_units {m : ℕ} (negative : Bool) (he : minExponent ≤ e)
    (hlow : e = minExponent ∨ 2 ^ 52 ≤ q / 2 ^ e) (hhigh : q / 2 ^ e < 2 ^ 53)
    (hm : |q / 2 ^ e - m| ≤ 1 / 2) (heven : |q / 2 ^ e - m| = 1 / 2 → m % 2 = 0) :
    IsNearest q (if m = 2 ^ 53 then ⟨negative, 2 ^ 52, e + 1⟩ else ⟨negative, m, e⟩) := by
  obtain ⟨hbelow, habove⟩ := abs_le.1 hm
  split
  · -- rounding up has given one bit too many, and the significand is the power of two
    rename_i hcarry
    have hvalue : absValue ⟨negative, 2 ^ 52, e + 1⟩ = m * 2 ^ e := by
      rw [absValue, hcarry]
      dsimp only
      rw [cast_two_pow, cast_two_pow, zpow_add₀ (by norm_num), zpow_one]
      ring
    have hbits : 2 ^ 52 < 2 ^ 53 := by decide
    have htwo : 2 ^ 52 % 2 = 0 := by decide
    refine ⟨⟨hbits, ?_⟩, Or.inr (le_refl _), ?_, fun _ _ _ _ => htwo⟩
    · dsimp only
      omega
    · intro y hy
      rw [hvalue]
      exact (le_abs_sub_of_units hlow hm hy).1
  · -- otherwise the rounded number is the significand
    rename_i hcarry
    have hle : m ≤ 2 ^ 53 := by
      have hlt : (m : ℚ) < (2 ^ 53 + 1 : ℕ) := by
        push_cast
        linarith
      exact Nat.lt_succ_iff.1 (Nat.cast_lt.1 hlt)
    refine ⟨⟨lt_of_le_of_ne hle hcarry, he⟩, ?_, ?_, ?_⟩
    · refine hlow.imp id fun hbits => ?_
      have hlt : ((2 ^ 52 : ℕ) : ℚ) < (m + 1 : ℕ) := by
        rw [cast_two_pow]
        push_cast
        linarith
      exact Nat.lt_succ_iff.1 (Nat.cast_lt.1 hlt)
    · intro y hy
      exact (le_abs_sub_of_units hlow hm hy).1
    · intro y hy hne htie
      exact heven ((le_abs_sub_of_units hlow hm hy).2 hne htie)

end

/-! ## Rounding quotients -/

section

variable {num den : ℕ}

/-- Numerator and denominator in units of `2^e` have the quotient in these units. One of the two
powers is one. -/
theorem ratio_inUnits (num den : ℕ) (e : ℤ) :
    ((inUnits num den e).1 : ℚ) / (inUnits num den e).2 = num / den / 2 ^ e := by
  have hpower : ∀ n, ((Nat.pow 2 n : ℕ) : ℚ) = 2 ^ n := fun n => Nat.cast_pow 2 n
  rw [inUnits]
  dsimp only
  rw [Nat.cast_mul, Nat.cast_mul, hpower, hpower]
  rcases le_total 0 e with he | he
  · have hnone : (-e).toNat = 0 := by omega
    have hexponent : ((e.toNat : ℕ) : ℤ) = e := Int.toNat_of_nonneg he
    rw [hnone, pow_zero, mul_one, ← div_div, ← zpow_natCast, hexponent]
  · have hnone : e.toNat = 0 := by omega
    have hexponent : e = -((-e).toNat : ℤ) := by omega
    rw [hnone, pow_zero, mul_one]
    conv_rhs => rw [hexponent, zpow_neg, zpow_natCast, div_inv_eq_mul]
    ring

theorem inUnits_pos (num : ℕ) (hden : 0 < den) (e : ℤ) : 0 < (inUnits num den e).2 :=
  Nat.mul_pos hden (Nat.pow_pos (by decide))

/-- The logarithms of a quotient's parts tell its size up to a factor of two. Each part is between a
power of two and its double, so the quotient is between half and twice the quotient of the powers.
-/
theorem ratio_guess (hnum : 0 < num) (hden : 0 < den) :
    2 ^ 51 < (num / den : ℚ) / 2 ^ ((num.log2 : ℤ) - den.log2 - 52) ∧
      (num / den : ℚ) / 2 ^ ((num.log2 : ℤ) - den.log2 - 52) < 2 ^ 53 := by
  have hbits : ∀ n : ℕ, 0 < n → (2 ^ n.log2 : ℚ) ≤ n ∧ (n : ℚ) < 2 ^ (n.log2 + 1) := by
    intro n hn
    have hle : ((2 ^ n.log2 : ℕ) : ℚ) ≤ n := Nat.cast_le.2 (Nat.log2_self_le hn.ne')
    have hlt : (n : ℚ) < (2 ^ (n.log2 + 1) : ℕ) := Nat.cast_lt.2 Nat.lt_log2_self
    rw [cast_two_pow] at hle hlt
    exact ⟨hle, hlt⟩
  obtain ⟨hnumle, hnumlt⟩ := hbits num hnum
  obtain ⟨hdenle, hdenlt⟩ := hbits den hden
  have hden' : (0 : ℚ) < den := Nat.cast_pos.2 hden
  have hpower : (2 : ℚ) ^ ((num.log2 : ℤ) - den.log2 - 52) =
      2 ^ num.log2 / 2 ^ den.log2 / 2 ^ 52 := by
    rw [zpow_sub₀ (by norm_num), zpow_sub₀ (by norm_num), zpow_natCast, zpow_natCast]
    rfl
  have hscaled : (num / den : ℚ) / 2 ^ ((num.log2 : ℤ) - den.log2 - 52) =
      num * 2 ^ den.log2 * 2 ^ 52 / (den * 2 ^ num.log2) := by
    rw [hpower]
    field_simp
  have hbelow : (0 : ℚ) < 2 ^ num.log2 := by positivity
  have hbelow' : (0 : ℚ) < 2 ^ den.log2 := by positivity
  rw [pow_succ] at hnumlt hdenlt
  rw [hscaled, lt_div_iff₀ (by positivity), div_lt_iff₀ (by positivity)]
  constructor
  · calc (2 : ℚ) ^ 51 * (den * 2 ^ num.log2) < 2 ^ 51 * (2 ^ den.log2 * 2 * 2 ^ num.log2) := by
          gcongr
      _ = 2 ^ num.log2 * 2 ^ den.log2 * 2 ^ 52 := by ring
      _ ≤ num * 2 ^ den.log2 * 2 ^ 52 := by gcongr
  · calc (num : ℚ) * 2 ^ den.log2 * 2 ^ 52 < 2 ^ num.log2 * 2 * 2 ^ den.log2 * 2 ^ 52 := by
          gcongr
      _ = 2 ^ 53 * (2 ^ den.log2 * 2 ^ num.log2) := by ring
      _ ≤ 2 ^ 53 * (den * 2 ^ num.log2) := by gcongr

/-- A quotient in units has fewer than 53 bits. -/
theorem inUnits_lt_iff (num : ℕ) (hden : 0 < den) (e : ℤ) :
    (inUnits num den e).1 < Nat.pow 2 52 * (inUnits num den e).2 ↔
      (num / den : ℚ) / 2 ^ e < 2 ^ 52 := by
  have hpos := inUnits_pos num hden e
  rw [← ratio_inUnits, div_lt_iff₀ (Nat.cast_pos.2 hpos), ← cast_two_pow, ← Nat.cast_mul,
    Nat.cast_lt]
  rfl

/-- The guess is right, or one bit is missing and the next smaller exponent is. -/
theorem exists_exponentFor (hnum : 0 < num) (hden : 0 < den) :
    ∃ e : ℤ, exponentFor num den = max e minExponent ∧
      2 ^ 52 ≤ (num / den : ℚ) / 2 ^ e ∧ (num / den : ℚ) / 2 ^ e < 2 ^ 53 := by
  obtain ⟨hlow, hhigh⟩ := ratio_guess hnum hden
  have hfew := inUnits_lt_iff num hden ((num.log2 : ℤ) - den.log2 - 52)
  refine ⟨_, rfl, ?_⟩
  split
  · -- one bit is missing: with the next smaller exponent the quotient doubles
    rename_i hless
    have hless := hfew.1 hless
    have hhalved : (num / den : ℚ) / 2 ^ ((num.log2 : ℤ) - den.log2 - 52 - 1) =
        (num / den : ℚ) / 2 ^ ((num.log2 : ℤ) - den.log2 - 52) * 2 := by
      rw [zpow_sub₀ (by norm_num) _ 1, zpow_one, div_div_eq_mul_div, mul_div_right_comm]
    rw [hhalved]
    constructor
    · linarith
    · linarith
  · rename_i henough
    exact ⟨not_lt.1 fun hless => henough (hfew.2 hless), hhigh⟩

/-- **The exponent for a quotient** gives it 53 bits, or is the smallest. -/
theorem exponentFor_spec (hnum : 0 < num) (hden : 0 < den) :
    minExponent ≤ exponentFor num den ∧
      (exponentFor num den = minExponent ∨
        2 ^ 52 ≤ (num / den : ℚ) / 2 ^ exponentFor num den) ∧
      (num / den : ℚ) / 2 ^ exponentFor num den < 2 ^ 53 := by
  have hnonneg : (0 : ℚ) ≤ num / den := by positivity
  obtain ⟨e, he, hbits, hfits⟩ := exists_exponentFor hnum hden
  rw [he]
  refine ⟨le_max_right _ _, ?_, ?_⟩
  · rcases le_total e minExponent with hsmall | hlarge
    · exact Or.inl (max_eq_right hsmall)
    · rw [max_eq_left hlarge]
      exact Or.inr hbits
  · calc (num / den : ℚ) / 2 ^ max e minExponent ≤ (num / den : ℚ) / 2 ^ e :=
          div_le_div_of_nonneg_left hnonneg (two_zpow_pos e) (two_zpow_le (le_max_left _ _))
      _ < 2 ^ 53 := hfits

theorem fits_zero (negative : Bool) : Fits ⟨negative, 0, minExponent⟩ :=
  ⟨Nat.two_pow_pos 53, le_refl _⟩

theorem absValue_zero (negative : Bool) : absValue ⟨negative, 0, minExponent⟩ = 0 := by
  rw [absValue, Nat.cast_zero, zero_mul]

theorem isNearest_zero (negative : Bool) : IsNearest 0 ⟨negative, 0, minExponent⟩ := by
  refine ⟨fits_zero negative, Or.inl rfl, ?_, fun _ _ _ _ => rfl⟩
  intro y _
  rw [absValue_zero, sub_zero, abs_zero]
  exact abs_nonneg _

/-- **A quotient is rounded to the nearest double.** -/
theorem isNearest_ofRatio (negative : Bool) (num : ℕ) (hden : 0 < den) :
    IsNearest (num / den) (ofRatio negative num den) := by
  unfold ofRatio
  split
  · rename_i hzero
    rw [hzero, Nat.cast_zero, zero_div]
    exact isNearest_zero negative
  · rename_i hnum
    obtain ⟨he, hlow, hhigh⟩ := exponentFor_spec (Nat.pos_of_ne_zero hnum) hden
    obtain ⟨hm, heven⟩ := divideEven_spec (a := (inUnits num den (exponentFor num den)).1)
      (inUnits_pos num hden (exponentFor num den))
    rw [ratio_inUnits] at hm heven
    exact isNearest_of_units negative he hlow hhigh hm heven

/-! ## Rounding decimals -/

/-- What is less than half of the smallest double is nearest to zero. -/
theorem isNearest_tiny (negative : Bool) {q : ℚ} (hnonneg : 0 ≤ q)
    (hq : q ≤ 2 ^ (minExponent - 1)) : IsNearest q ⟨negative, 0, minExponent⟩ := by
  refine ⟨fits_zero negative, Or.inl rfl, ?_, fun _ _ _ _ => rfl⟩
  intro y hy
  rw [absValue_zero, sub_zero, abs_of_nonneg hnonneg]
  rcases Nat.eq_zero_or_pos y.significand with hnone | hsome
  · rw [absValue, hnone, Nat.cast_zero, zero_mul, sub_zero]
    exact le_abs_self q
  · have hsmallest : 2 * 2 ^ (minExponent - 1) ≤ y.absValue := by
      have hone : (1 : ℚ) ≤ y.significand := Nat.one_le_cast.2 hsome
      calc (2 : ℚ) * 2 ^ (minExponent - 1) = 2 ^ minExponent := by
            rw [zpow_sub₀ (by norm_num), zpow_one]
            ring
        _ ≤ 2 ^ y.exponent := two_zpow_le hy.le_exponent
        _ ≤ y.significand * 2 ^ y.exponent := le_mul_of_one_le_left (two_zpow_pos _).le hone
    rw [abs_sub_comm, abs_of_nonneg (by linarith)]
    linarith

/-- A decimal with many more places than digits is tiny. A digit is worth less than four bits and a
place more than three, so four hundred places more than bits are below the smallest exponent. -/
theorem tiny_of_places {digits places : ℕ} (h : digits.log2 + 400 < places) :
    (digits / (10 ^ places : ℕ) : ℚ) ≤ 2 ^ (minExponent - 1) := by
  have hdigits : (digits : ℚ) ≤ 2 ^ (digits.log2 + 1) := by
    have hlt : (digits : ℚ) < (2 ^ (digits.log2 + 1) : ℕ) := Nat.cast_lt.2 Nat.lt_log2_self
    rw [cast_two_pow] at hlt
    exact hlt.le
  have htens : (2 : ℚ) ^ (3 * places) ≤ (10 ^ places : ℕ) := by
    push_cast
    rw [pow_mul]
    exact pow_le_pow_left₀ (by norm_num) (by norm_num) places
  calc (digits / (10 ^ places : ℕ) : ℚ) ≤ 2 ^ (digits.log2 + 1) / 2 ^ (3 * places) := by
        gcongr
    _ = 2 ^ ((digits.log2 + 1 : ℕ) - (3 * places : ℕ) : ℤ) := by
        rw [zpow_sub₀ (by norm_num), zpow_natCast, zpow_natCast]
    _ ≤ 2 ^ (minExponent - 1) := by
        apply two_zpow_le
        have hlowest : minExponent = -1074 := rfl
        omega

/-- **A decimal is rounded to the nearest double.** It is a quotient with a power of ten above or
below, and only where that would be huge the answer is given without forming it. -/
theorem isNearest_ofDecimal (d : Decimal) : IsNearest |d.value| (ofDecimal d) := by
  unfold ofDecimal
  split
  · rename_i hsign
    have hratio := isNearest_ofRatio d.negative (d.digits * Nat.pow 10 d.exponent.toNat)
      Nat.one_pos
    rw [Nat.cast_one, div_one] at hratio
    rw [Decimal.abs_value_of_nonneg hsign]
    exact hratio
  · rename_i hsign
    rw [Decimal.abs_value_of_neg (by omega)]
    dsimp only
    split
    · rename_i hplaces
      exact isNearest_tiny d.negative (by positivity) (tiny_of_places hplaces)
    · exact isNearest_ofRatio d.negative d.digits (Nat.pow_pos (by decide))

end

end CatalogEntities.Double
