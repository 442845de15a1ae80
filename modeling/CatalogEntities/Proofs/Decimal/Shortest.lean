import CatalogEntities.Decimal.Shortest
import CatalogEntities.Proofs.Decimal.Nearest

/-!
# `Proofs/Decimal/Shortest.lean` — how large what is printed can be

What is printed for a double is a natural number and a power of ten. The number has at most
seventeen digits, since no finer grid is searched than that of the seventeenth, and what it denotes
is no more than half a place above the double, since it rounds to it (`shortest_spec`).

Both matter to whoever reads the text and rounds the two parts each for itself: the digits fit a
machine word, and neither part grows by more than one in `2^53` (`absValue_ofRatio_le`).

That the number is the shortest which rounds to the double is not used here and not proved. What is
needed of the search is where it ends: on a grid of powers of ten not finer than the seventeenth
digit (`exists_onGrid`), at a number that was accepted there (`le_of_accepts`). Numbers in the
report are durations, and reading one back is `Proofs/Json/Numbers.lean`.
-/

set_option autoImplicit false

namespace CatalogEntities.Double

/-! ## Quotients of powers -/

theorem cast_nat_pow (b n : ℕ) : ((Nat.pow b n : ℕ) : ℚ) = b ^ n := Nat.cast_pow b n

/-- An integer power is a quotient of natural ones, one of which is one. -/
theorem zpow_eq_div (a : ℚ) (z : ℤ) : a ^ z = a ^ z.toNat / a ^ (-z).toNat := by
  rcases le_total 0 z with hz | hz
  · obtain ⟨n, rfl⟩ := Int.eq_ofNat_of_zero_le hz
    simp
  · obtain ⟨n, hn⟩ := Int.eq_ofNat_of_zero_le (neg_nonneg.2 hz)
    obtain rfl : z = -n := by omega
    simp

theorem absValue_nonneg (d : Double) : 0 ≤ d.absValue :=
  mul_nonneg (Nat.cast_nonneg _) (two_zpow_pos _).le

theorem ratio_pos (d : Double) : 0 < d.ratio.2 := Nat.pow_pos (by decide)

theorem cast_ratio (d : Double) : (d.ratio.1 : ℚ) / d.ratio.2 = d.absValue := by
  rw [ratio, absValue, zpow_eq_div 2, mul_div_assoc', Nat.cast_mul, cast_nat_pow, cast_nat_pow,
    Nat.cast_ofNat]

theorem scales_pos (d : Double) (k : ℤ) : 0 < (d.scales k).2 :=
  Nat.mul_pos (Nat.pow_pos (by decide)) (Nat.pow_pos (by decide))

/-- The two scales of a grid are told as natural numbers; their quotient is that of the units. -/
theorem cast_scales (d : Double) (k : ℤ) :
    ((d.scales k).1 : ℚ) / (d.scales k).2 = 2 ^ (d.exponent - 2) / 10 ^ k := by
  rw [scales, zpow_eq_div 2, zpow_eq_div 10]
  dsimp only
  simp only [Nat.cast_mul, cast_nat_pow, Nat.cast_ofNat]
  field_simp

/-! ## What is printed -/

/-- What rounds to a double is no more than half a place above it. -/
theorem le_of_accepts {d : Double} {k : ℤ} {c : ℕ} (h : d.accepts k c = true) :
    (c : ℚ) * 10 ^ k ≤ (4 * d.significand + 2) * 2 ^ (d.exponent - 2) := by
  have hle : c * (d.scales k).2 ≤ (4 * d.significand + 2) * (d.scales k).1 := by
    unfold accepts at h
    dsimp only at h
    split at h
    · exact (of_decide_eq_true (Bool.and_eq_true_iff.1 h).2)
    · exact Nat.le_of_lt (of_decide_eq_true (Bool.and_eq_true_iff.1 h).2)
  have hq : (0 : ℚ) < (d.scales k).2 := Nat.cast_pos.2 (scales_pos d k)
  have hten : (0 : ℚ) < 10 ^ k := by positivity
  have hcast : (c : ℚ) * (d.scales k).2 ≤ (4 * d.significand + 2) * (d.scales k).1 := by
    exact_mod_cast hle
  have hscales := cast_scales d k
  rw [div_eq_div_iff hq.ne' hten.ne'] at hscales
  rw [← mul_le_mul_iff_of_pos_right hq]
  calc (c : ℚ) * 10 ^ k * (d.scales k).2 = c * (d.scales k).2 * 10 ^ k := by ring
    _ ≤ (4 * d.significand + 2) * (d.scales k).1 * 10 ^ k :=
      mul_le_mul_of_nonneg_right hcast hten.le
    _ = (4 * d.significand + 2) * ((d.scales k).1 * 10 ^ k) := by ring
    _ = (4 * d.significand + 2) * 2 ^ (d.exponent - 2) * (d.scales k).2 := by
      rw [hscales]
      ring

/-- The magnitude is told by the digits of the double, moved by enough places. -/
theorem exists_magnitude_eq (d : Double) : ∃ places : ℕ, d.magnitude =
    (Nat.toDigits 10 (d.ratio.1 * Nat.pow 10 places / d.ratio.2)).length - (places : ℤ) :=
  Exists.intro _ rfl

/-- A double is below the power of ten that its magnitude tells. -/
theorem lt_ten_pow_magnitude (d : Double) : d.absValue < 10 ^ d.magnitude := by
  obtain ⟨places, hplaces⟩ := exists_magnitude_eq d
  have hlength := (Nat.length_toDigits_le_iff (b := 10)
    (n := d.ratio.1 * Nat.pow 10 places / d.ratio.2) (by decide) Nat.length_toDigits_pos).1
    (le_refl _)
  rw [Nat.div_lt_iff_lt_mul (ratio_pos d), ← @Nat.cast_lt ℚ, Nat.cast_mul, Nat.cast_mul,
    cast_nat_pow, Nat.cast_pow, Nat.cast_ofNat] at hlength
  rw [hplaces, ← cast_ratio, div_lt_iff₀ (Nat.cast_pos.2 (ratio_pos d)), zpow_sub₀ (by norm_num),
    zpow_natCast, zpow_natCast, div_mul_eq_mul_div, lt_div_iff₀ (by positivity)]
  exact hlength

/-- The neighbours of a double on a grid have no more digits than it has above the grid. -/
theorem onGrid_le {d : Double} {k : ℤ} {c n : ℕ} (h : d.onGrid k = some c)
    (hn : d.magnitude ≤ k + n) : c ≤ 10 ^ n := by
  -- the quotient is the double in units of the grid, and has no more than `n` digits
  have hbelow : 4 * d.significand * (d.scales k).1 / (d.scales k).2 < 10 ^ n := by
    rw [Nat.div_lt_iff_lt_mul (scales_pos d k), ← @Nat.cast_lt ℚ]
    have hq : (0 : ℚ) < (d.scales k).2 := Nat.cast_pos.2 (scales_pos d k)
    have hten : (0 : ℚ) < 10 ^ k := by positivity
    have hvalue : (4 : ℚ) * d.significand * ((d.scales k).1 / (d.scales k).2) =
        d.absValue / 10 ^ k := by
      rw [cast_scales, absValue, zpow_sub₀ two_ne_zero]
      ring
    have hlt : d.absValue / 10 ^ k < 10 ^ n := by
      rw [div_lt_iff₀ hten, ← zpow_natCast, ← zpow_add₀ (by norm_num), add_comm]
      exact (lt_ten_pow_magnitude d).trans_le (zpow_le_zpow_right₀ (by norm_num) hn)
    rw [← hvalue, mul_div_assoc', div_lt_iff₀ hq] at hlt
    push_cast
    exact hlt
  unfold onGrid at h
  dsimp only at h
  have hmem := List.mem_of_find?_eq_some h
  have hc : c ≤ 4 * d.significand * (d.scales k).1 / (d.scales k).2 + 1 := by
    split at hmem
    all_goals
      simp only [List.mem_cons, List.not_mem_nil, or_false] at hmem
      omega
  exact hc.trans hbelow

/-- Dropping zeros changes the digits and the exponent together, and so not the number. -/
theorem dropZeros_spec (fuel n dropped : ℕ) :
    ∃ more, (dropZeros fuel n dropped).2 = dropped + more ∧
      n = (dropZeros fuel n dropped).1 * 10 ^ more := by
  induction fuel generalizing n dropped with
  | zero => exact ⟨0, rfl, (Nat.mul_one n).symm⟩
  | succ fuel ih =>
    rw [dropZeros]
    split
    · rename_i hzero
      obtain ⟨more, hmore, hn⟩ := ih (n / 10) (dropped + 1)
      rw [Bool.and_eq_true, decide_eq_true_eq] at hzero
      refine ⟨more + 1, by omega, ?_⟩
      rw [pow_succ, ← mul_assoc, ← hn]
      omega
    · exact ⟨0, rfl, (Nat.mul_one n).symm⟩

/-- What is printed was found on a grid, but for zeros at its end. -/
theorem exists_onGrid {d : Double} {c : ℕ} {k : ℤ} (h : d.shortest = (c, k)) (hc : c ≠ 0) :
    ∃ (c₀ more : ℕ) (n : ℕ), n < 17 ∧ d.onGrid (d.magnitude - (n + 1 : ℕ)) = some c₀ ∧
      c₀ = c * 10 ^ more ∧ k = d.magnitude - (n + 1 : ℕ) + more := by
  rw [shortest] at h
  by_cases hzero : d.significand = 0
  · rw [if_pos hzero] at h
    exact absurd (Prod.mk.inj h).1.symm hc
  rw [if_neg hzero] at h
  -- the search goes from the coarsest grid to the finest and ends at the first that has a number
  cases hfound : ((List.range 17).map fun n => d.magnitude - (n + 1 : ℕ)).findSome?
      (fun k => (d.onGrid k).map fun c => (c, k)) with
  | none =>
    simp only [hfound] at h
    exact absurd (Prod.mk.inj h).1.symm hc
  | some found =>
    simp only [hfound] at h
    obtain ⟨rfl, rfl⟩ := Prod.mk.inj h
    obtain ⟨grid, hgrid, hsome⟩ := List.exists_of_findSome?_eq_some hfound
    obtain ⟨c₀, hon, rfl⟩ := Option.map_eq_some_iff.1 hsome
    obtain ⟨n, hn, rfl⟩ := List.mem_map.1 hgrid
    obtain ⟨more, hmore, hc₀⟩ := dropZeros_spec 20 c₀ 0
    refine ⟨c₀, more, n, List.mem_range.1 hn, hon, hc₀, ?_⟩
    rw [hmore, Nat.zero_add]

/-- **What is printed has at most seventeen digits**, but for a one in front of seventeen zeros, and
is no more than half a place above the double. -/
theorem shortest_spec {d : Double} {c : ℕ} {k : ℤ} (h : d.shortest = (c, k)) (hc : c ≠ 0) :
    c ≤ 10 ^ 17 ∧ (c : ℚ) * 10 ^ k ≤ (4 * d.significand + 2) * 2 ^ (d.exponent - 2) := by
  obtain ⟨c₀, more, n, hn, hon, rfl, rfl⟩ := exists_onGrid h hc
  constructor
  · calc c ≤ c * 10 ^ more := Nat.le_mul_of_pos_right _ (Nat.pow_pos (by decide))
      _ ≤ 10 ^ 17 := onGrid_le hon (by omega)
  · have haccepts := le_of_accepts (List.find?_some hon)
    rw [zpow_add₀ (by norm_num), zpow_natCast, mul_comm (_ ^ _), ← mul_assoc]
    exact_mod_cast haccepts

/-! ## Rounding errors -/

/-- The double of a quotient is what rounding it in its units gives, carried or not. -/
theorem absValue_ofRatio (negative : Bool) {num den : ℕ} (hnum : num ≠ 0) :
    (ofRatio negative num den).absValue =
      divideEven (inUnits num den (exponentFor num den)).1
        (inUnits num den (exponentFor num den)).2 * 2 ^ exponentFor num den := by
  rw [ofRatio, if_neg hnum]
  dsimp only
  split
  · rename_i hcarry
    rw [hcarry, absValue, zpow_add₀ two_ne_zero, zpow_one]
    push_cast
    ring
  · rfl

/-- A number from one on is rounded up by no more than one part in `2^53`. -/
theorem absValue_ofRatio_le (negative : Bool) (num : ℕ) {den : ℕ} (hden : 0 < den)
    (hle : den ≤ num) :
    (ofRatio negative num den).absValue ≤ num / den * (1 + 1 / 2 ^ 53) := by
  have hnum : 0 < num := hden.trans_le hle
  have hone : (1 : ℚ) ≤ num / den := by
    rw [one_le_div (Nat.cast_pos.2 hden)]
    exact Nat.cast_le.2 hle
  obtain ⟨-, hlow, hhigh⟩ := exponentFor_spec hnum hden
  obtain ⟨hm, -⟩ := divideEven_spec (a := (inUnits num den (exponentFor num den)).1)
    (inUnits_pos num hden (exponentFor num den))
  rw [ratio_inUnits] at hm
  rw [absValue_ofRatio negative hnum.ne']
  generalize exponentFor num den = e at *
  have hpos := two_zpow_pos e
  have hbits : (2 : ℚ) ^ 52 ≤ num / den / 2 ^ e := by
    rcases hlow with rfl | hbits
    · -- at the smallest exponent a number from one on has many more bits
      exfalso
      have hsmall : (2 : ℚ) ^ minExponent ≤ 2 ^ (-53 : ℤ) := two_zpow_le (by decide)
      rw [div_lt_iff₀ hpos] at hhigh
      have hproduct : (2 : ℚ) ^ 53 * 2 ^ minExponent ≤ 2 ^ 53 * 2 ^ (-53 : ℤ) :=
        mul_le_mul_of_nonneg_left hsmall (by positivity)
      have hinverse : (2 : ℚ) ^ 53 * 2 ^ (-53 : ℤ) = 1 := by norm_num
      linarith
    · exact hbits
  have hrounded : (divideEven (inUnits num den e).1 (inUnits num den e).2 : ℚ) ≤
      num / den / 2 ^ e * (1 + 1 / 2 ^ 53) := by
    have habove := (abs_le.1 hm).1
    linarith
  calc (divideEven (inUnits num den e).1 (inUnits num den e).2 : ℚ) * 2 ^ e
      ≤ num / den / 2 ^ e * (1 + 1 / 2 ^ 53) * 2 ^ e :=
        mul_le_mul_of_nonneg_right hrounded hpos.le
    _ = num / den * (1 + 1 / 2 ^ 53) := by
        field_simp

end CatalogEntities.Double
