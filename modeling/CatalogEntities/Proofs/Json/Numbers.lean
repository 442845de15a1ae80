import CatalogEntities.Json.Writer
import CatalogEntities.Json.Number
import CatalogEntities.Proofs.Decimal.Shortest

/-!
# `Proofs/Json/Numbers.lean` — numbers are read back

An integer is read as the integer that it is. The text of a double is a number with a point or an
exponent, whatever its layout, and it is read as some double. That it is read at all has to be
shown: digits and power of ten are rounded before they are multiplied, and for the very largest
doubles the product of what they are rounded to could be infinite. It is not: below the last three
doubles the two roundings together are too small to reach the bound, and the last three are
computed.

Which double is read is left open. Two roundings and a product are not one rounding, so it need not
be the one that was written, and nothing that is proved of reports says that it is. What counts is
that the text is a number and that reading goes on behind it. The parts of a number are shown first,
with the rest of the text kept free (`readNumber_parts`), and then the layouts of a double one by
one: digits in front of the point, around it, behind it, and with an exponent.
-/

set_option autoImplicit false

namespace CatalogEntities

/-- **A double that there is**: with room for its significand and its exponent. -/
structure Double.Finite (d : Double) : Prop where
  fits : d.Fits
  exponent_le : d.exponent ≤ 971

namespace Json

open CatalogEntities.Decimal (AllDigits ofDigits overflow)
open CatalogEntities.Double (ofRatio absValue)

/-! ## Moving the point -/

theorem isSome_shift?_of_neg (d : Double) {e : ℤ} (h : e < 0) : (shift? d e).isSome = true := by
  unfold shift?
  split
  · rfl
  rw [if_neg (by omega), if_neg (by omega)]
  split
  · rfl
  split
  · rfl
  · rfl

/-- A product is there if it stays below the bound. It is asked in natural numbers, where nothing is
rounded. -/
theorem isSome_product?_iff (d e : Double) :
    (d.product? e).isSome = true ↔ d.absValue * e.absValue < overflow := by
  have hd : (0 : ℚ) < d.ratio.2 := Nat.cast_pos.2 d.ratio_pos
  have he : (0 : ℚ) < e.ratio.2 := Nat.cast_pos.2 e.ratio_pos
  have hproduct : d.absValue * e.absValue < overflow ↔
      d.ratio.1 * e.ratio.1 < overflow * (d.ratio.2 * e.ratio.2) := by
    rw [← d.cast_ratio, ← e.cast_ratio, div_mul_div_comm, div_lt_iff₀ (mul_pos hd he)]
    exact_mod_cast Iff.rfl
  rw [hproduct, Double.product?]
  dsimp only
  split
  · rename_i h
    exact iff_of_true rfl h
  · rename_i h
    exact iff_of_false Bool.false_ne_true h

theorem isSome_shift?_of_nonneg {d : Double} {e : ℤ} (hnonneg : 0 ≤ e) (hle : e ≤ 308)
    (hlt : d.absValue * (tenTo e.toNat).absValue < overflow) : (shift? d e).isSome = true := by
  unfold shift?
  split
  · rfl
  rw [if_neg (by omega)]
  exact (isSome_product?_iff d _).2 hlt

/-- What is printed for the last three doubles can be read. -/
theorem isSome_shift?_last : ∀ sign negative : Bool, ∀ i < 3,
    (shift? (ofRatio negative (Double.shortest ⟨sign, 2 ^ 53 - 1 - i, 971⟩).1 1)
      (Double.shortest ⟨sign, 2 ^ 53 - 1 - i, 971⟩).2).isSome = true := by
  decide +kernel

/-- What is printed for a double, with both of its parts rounded up, does not overflow. -/
theorem rounded_lt_overflow {d : Double} (h : d.Finite)
    (hlast : d.exponent = 971 → d.significand + 4 ≤ 2 ^ 53) {q : ℚ}
    (hq : q ≤ (4 * d.significand + 2) * 2 ^ (d.exponent - 2)) :
    q * ((1 + 1 / 2 ^ 53) * (1 + 1 / 2 ^ 53)) < overflow := by
  have hunit : 0 < Double.halfPlace := Double.two_zpow_pos 970
  rw [Decimal.cast_overflow, Double.bound_eq]
  -- there are six half places to spare, as the double is not among the last three
  have hplace : q ≤ (2 ^ 54 - 7) * Double.halfPlace := by
    rcases h.exponent_le.lt_or_eq with hexponent | hexponent
    · have hpower : (2 : ℚ) ^ (d.exponent - 2) ≤ Double.halfPlace / 4 := by
        calc (2 : ℚ) ^ (d.exponent - 2) ≤ 2 ^ (970 - 2 : ℤ) := Double.two_zpow_le (by omega)
          _ = Double.halfPlace / 4 := by
            rw [zpow_sub₀ two_ne_zero, Double.halfPlace]
            norm_num
      have hbits : (d.significand : ℚ) ≤ 2 ^ 53 := by
        exact_mod_cast h.fits.significand_lt.le
      calc q ≤ (4 * d.significand + 2) * 2 ^ (d.exponent - 2) := hq
        _ ≤ (4 * 2 ^ 53 + 2) * (Double.halfPlace / 4) := by gcongr
        _ ≤ (2 ^ 54 - 7) * Double.halfPlace := by linarith
    · have hpower : (2 : ℚ) ^ (d.exponent - 2) = Double.halfPlace / 2 := by
        have hone : d.exponent - 2 = 970 - 1 := by omega
        rw [hone, zpow_sub₀ two_ne_zero, Double.halfPlace, zpow_one]
      have hbits : (d.significand : ℚ) + 4 ≤ 2 ^ 53 := by
        exact_mod_cast hlast hexponent
      rw [hpower] at hq
      calc q ≤ (4 * d.significand + 2) * (Double.halfPlace / 2) := hq
        _ ≤ (4 * (2 ^ 53 - 4) + 2) * (Double.halfPlace / 2) := by
          gcongr
          linarith
        _ = (2 ^ 54 - 7) * Double.halfPlace := by ring
  calc q * ((1 + 1 / 2 ^ 53) * (1 + 1 / 2 ^ 53))
      ≤ (2 ^ 54 - 7) * Double.halfPlace * ((1 + 1 / 2 ^ 53) * (1 + 1 / 2 ^ 53)) :=
        mul_le_mul_of_nonneg_right hplace (by positivity)
    _ = (2 ^ 54 - 7) * ((1 + 1 / 2 ^ 53) * (1 + 1 / 2 ^ 53)) * Double.halfPlace := by ring
    _ < (2 ^ 54 - 1) * Double.halfPlace :=
        mul_lt_mul_of_pos_right (by norm_num) hunit

/-- **What is printed for a double can be read.** -/
theorem isSome_shift?_shortest {d : Double} (h : d.Finite) (negative : Bool) {c : ℕ} {k : ℤ}
    (hshortest : d.shortest = (c, k)) (hc : c ≠ 0) :
    (shift? (ofRatio negative c 1) k).isSome = true := by
  rcases lt_or_ge k 0 with hneg | hnonneg
  · exact isSome_shift?_of_neg _ hneg
  have hbits := h.fits.significand_lt
  -- the bound is too close for the last three, which are read as they stand
  by_cases hlast : d.exponent = 971 ∧ 2 ^ 53 < d.significand + 4
  · obtain ⟨sign, m, e⟩ := d
    dsimp only at hlast hbits
    obtain ⟨rfl, hm⟩ := hlast
    have hsome := isSome_shift?_last sign negative (2 ^ 53 - 1 - m) (by omega)
    have hlast : 2 ^ 53 - 1 - (2 ^ 53 - 1 - m) = m := by omega
    rw [hlast, hshortest] at hsome
    exact hsome
  obtain ⟨-, hhalf⟩ := Double.shortest_spec hshortest hc
  have hlt := rounded_lt_overflow h (by omega) hhalf
  obtain ⟨n, rfl⟩ := Int.eq_ofNat_of_zero_le hnonneg
  rw [zpow_natCast] at hlt
  have hdigits := Double.absValue_ofRatio_le negative c Nat.one_pos (by omega)
  have hpower := Double.absValue_ofRatio_le false (Nat.pow 10 n) Nat.one_pos
    (Nat.pow_pos (by decide))
  rw [Nat.cast_one, div_one] at hdigits hpower
  rw [Double.cast_nat_pow, Nat.cast_ofNat] at hpower
  have hone : (1 : ℚ) ≤ c := Nat.one_le_cast.2 (Nat.pos_of_ne_zero hc)
  apply isSome_shift?_of_nonneg (Int.natCast_nonneg n)
  · -- a larger power of ten overflows by itself
    by_contra hlarge
    have hproduct : (10 : ℚ) ^ n ≤ c * 10 ^ n * ((1 + 1 / 2 ^ 53) * (1 + 1 / 2 ^ 53)) := by
      calc (10 : ℚ) ^ n = 1 * 10 ^ n * 1 := by ring
        _ ≤ c * 10 ^ n * ((1 + 1 / 2 ^ 53) * (1 + 1 / 2 ^ 53)) := by
          gcongr
          norm_num
    have hbelow : 10 ^ n < overflow := by exact_mod_cast hproduct.trans_lt hlt
    have hmore : ∀ m, m ≤ n → 10 ^ m ≤ 10 ^ n := fun _ hm => Nat.pow_le_pow_right (by decide) hm
    exact absurd hbelow (Nat.not_lt.2 (Decimal.overflow_le.trans (hmore 309 (by omega))))
  · calc (ofRatio negative c 1).absValue * (tenTo (n : ℤ).toNat).absValue
        ≤ (c * (1 + 1 / 2 ^ 53)) * (10 ^ n * (1 + 1 / 2 ^ 53)) := by
          rw [Int.toNat_natCast, tenTo]
          exact mul_le_mul hdigits hpower (Double.absValue_nonneg _) (by positivity)
      _ = c * 10 ^ n * ((1 + 1 / 2 ^ 53) * (1 + 1 / 2 ^ 53)) := by ring
      _ < overflow := hlt

/-! ## The parts of a number text -/

/-- What may stand behind a number: nothing that could still belong to it. -/
def EndsNumber (rest : List Char) : Prop :=
  ∀ c ∈ rest.head?, c.isDigit = false ∧ c ≠ '.' ∧ c ≠ 'e' ∧ c ≠ 'E'

/-- Digits in front of a number: one zero, or digits that do not begin with zero. -/
inductive IsWhole : List Char → Prop
  | zero : IsWhole ['0']
  | digits {c : Char} {ds : List Char} (hc : c ≠ '0') (hds : AllDigits (c :: ds)) :
      IsWhole (c :: ds)

/-- A fraction with its digits; behind a point there is at least one. -/
inductive IsFraction : List Char → List Char → Prop
  | none : IsFraction [] []
  | point {ds : List Char} (hsome : ds ≠ []) (hds : AllDigits ds) : IsFraction ds ('.' :: ds)

def signChars (negative : Bool) : List Char := if negative then ['-'] else []

def exponentChars : Option ℤ → List Char
  | none => []
  | some e => (Double.exponentText e).toList

theorem IsWhole.allDigits {whole : List Char} (h : IsWhole whole) : AllDigits whole := by
  cases h with
  | zero => exact List.forall_mem_singleton.2 rfl
  | digits _ hds => exact hds

theorem IsWhole.head_isDigit {whole rest : List Char} (h : IsWhole whole) :
    ∀ c ∈ (whole ++ rest).head?, c.isDigit = true := by
  intro c hc
  cases h with
  | zero =>
    obtain rfl := Option.some.inj hc
    rfl
  | digits _ hds =>
    obtain rfl := Option.some.inj hc
    exact hds _ List.mem_cons_self

section

variable {whole digits fraction rest : List Char}

theorem takeWhole_append (h : IsWhole whole) (hrest : ∀ c ∈ rest.head?, c.isDigit = false) :
    takeWhole (whole ++ rest) = some (whole, rest) := by
  cases h with
  | zero => rfl
  | @digits c ds hc hds =>
    have htake := hds.takeWhile_append hrest
    have hdrop := hds.dropWhile_append hrest
    rw [List.cons_append] at htake hdrop ⊢
    unfold takeWhole
    split
    · rename_i heq
      exact absurd (List.cons.inj heq).1 hc
    · rw [htake, hdrop]
      rfl

/-- A fraction is taken, and where there is none nothing is. -/
theorem takeFraction_append (h : IsFraction digits fraction)
    (hrest : ∀ c ∈ rest.head?, c.isDigit = false ∧ c ≠ '.') :
    takeFraction (fraction ++ rest) = some (digits, rest) := by
  cases h with
  | none =>
    rw [List.nil_append]
    unfold takeFraction
    split
    · exact absurd rfl (hrest '.' rfl).2
    · rfl
  | point hsome hds =>
    have hdigit : ∀ c ∈ rest.head?, c.isDigit = false := fun c hc => (hrest c hc).1
    rw [List.cons_append, takeFraction, hds.takeWhile_append hdigit, hds.dropWhile_append hdigit,
      if_neg]
    rwa [List.isEmpty_iff]

/-- An exponent is taken with its sign, and where there is none nothing is. -/
theorem takeExponent_append (exponent : Option ℤ) (hrest : EndsNumber rest) :
    takeExponent (exponentChars exponent ++ rest) = some (exponent, rest) := by
  cases exponent with
  | none =>
    rw [exponentChars, List.nil_append]
    cases rest with
    | nil => rfl
    | cons c rest =>
      obtain ⟨-, -, he, hE⟩ := hrest c rfl
      rw [takeExponent, if_neg]
      rintro (rfl | rfl)
      · exact he rfl
      · exact hE rfl
  | some e =>
    -- the sign is always written, so the digits are those of the absolute value
    have hdigits := Decimal.allDigits_toDigits e.natAbs
    have hrepr : (toString e.natAbs).toList = Nat.toDigits 10 e.natAbs := Nat.toList_repr
    have hdigit : ∀ c ∈ rest.head?, c.isDigit = false := fun c hc => (hrest c hc).1
    have hmark : (exponentChars (some e) ++ rest) =
        'e' :: (if e < 0 then '-' else '+') :: (Nat.toDigits 10 e.natAbs ++ rest) := by
      rw [exponentChars, Double.exponentText, String.toList_append, hrepr]
      split
      · rfl
      · rfl
    have hsign : Decimal.takeSign
        ((if e < 0 then '-' else '+') :: (Nat.toDigits 10 e.natAbs ++ rest)) =
        (decide (e < 0), Nat.toDigits 10 e.natAbs ++ rest) := by
      by_cases hneg : e < 0
      · simp [hneg, Decimal.takeSign]
      · simp [hneg, Decimal.takeSign]
    rw [hmark, takeExponent, if_pos (Or.inl rfl), hsign]
    dsimp only
    rw [hdigits.takeWhile_append hdigit, hdigits.dropWhile_append hdigit,
      Decimal.ofDigits_toDigits, if_neg]
    · by_cases hneg : e < 0
      · rw [decide_eq_true hneg, if_pos rfl, Int.ofNat_natAbs_of_nonpos hneg.le, neg_neg]
      · rw [decide_eq_false hneg, if_neg Bool.false_ne_true, Int.natAbs_of_nonneg (not_lt.1 hneg)]
    · rw [List.isEmpty_iff]
      exact Nat.toDigits_ne_nil

theorem head_exponent (exponent : Option ℤ) (hrest : EndsNumber rest) :
    ∀ c ∈ (exponentChars exponent ++ rest).head?, c.isDigit = false ∧ c ≠ '.' := by
  intro c hc
  cases exponent with
  | none => exact ⟨(hrest c hc).1, (hrest c hc).2.1⟩
  | some e =>
    rw [exponentChars, Double.exponentText, String.toList_append] at hc
    split at hc
    · obtain rfl := Option.some.inj hc
      decide
    · obtain rfl := Option.some.inj hc
      decide

theorem head_fraction (h : IsFraction digits fraction)
    (hrest : ∀ c ∈ rest.head?, c.isDigit = false ∧ c ≠ '.') :
    ∀ c ∈ (fraction ++ rest).head?, c.isDigit = false := by
  intro c hc
  cases h with
  | none => exact (hrest c hc).1
  | point =>
    obtain rfl := Option.some.inj hc
    rfl

/-- A number behind its sign. -/
def readUnsigned (negative : Bool) (cs : List Char) : Option (Json × List Char) := do
  let (whole, cs) ← takeWhole cs
  let (fraction, cs) ← takeFraction cs
  let (exponent, cs) ← takeExponent cs
  let value ← number? negative whole fraction exponent
  some (value, cs)

theorem readNumber_signChars (negative : Bool) {cs : List Char} (h : ∀ c ∈ cs.head?, c ≠ '-') :
    readNumber (signChars negative ++ cs) = readUnsigned negative cs := by
  cases negative with
  | true => rfl
  | false =>
    rw [signChars, if_neg Bool.false_ne_true, List.nil_append]
    unfold readNumber
    split
    · rename_i heq
      split at heq
      · exact absurd rfl (h '-' rfl)
      · obtain ⟨rfl, rfl⟩ := Prod.mk.inj heq
        rfl

/-- **A number text is taken apart** as it was put together. -/
theorem readNumber_parts (negative : Bool) (hwhole : IsWhole whole)
    (hfraction : IsFraction digits fraction) (exponent : Option ℤ) (hrest : EndsNumber rest) :
    readNumber (signChars negative ++ (whole ++ (fraction ++ (exponentChars exponent ++ rest)))) =
      (number? negative whole digits exponent).map fun v => (v, rest) := by
  have htail := head_exponent exponent hrest
  rw [readNumber_signChars]
  · simp only [readUnsigned, takeWhole_append hwhole (head_fraction hfraction htail),
      takeFraction_append hfraction htail, takeExponent_append exponent hrest,
      Option.bind_eq_bind, Option.bind_some]
    exact (Option.map_eq_bind ..).symm
  · rintro c hc rfl
    exact absurd (hwhole.head_isDigit _ hc) (by decide)

end

/-! ## Values of number texts -/

section

variable {negative : Bool} {whole digits : List Char} {exponent : Option ℤ}

/-- Digits that fit a machine word are all taken. -/
theorem addDigits_eq (whole digits : List Char) (h : ofDigits (whole ++ digits) < Nat.pow 2 64) :
    addDigits (ofDigits whole) digits = (ofDigits (whole ++ digits), digits.length, []) := by
  induction digits generalizing whole with
  | nil => rw [addDigits, List.append_nil, List.length_nil]
  | cons c digits ih =>
    have hstep : whole ++ c :: digits = (whole ++ [c]) ++ digits := by simp
    have hvalue := Decimal.ofDigits_append_singleton whole c
    rw [hstep] at h ⊢
    rw [addDigits, ← hvalue, if_pos ((Decimal.ofDigits_le_append _ digits).trans_lt h), ih _ h,
      List.length_cons]

/-- A text with a point or an exponent is a double: its digits, moved by a power of ten. The digits
are collected in a machine word, and as they fit it none is dropped. -/
theorem number?_double (hfits : ofDigits (whole ++ digits) < Nat.pow 2 64)
    (hdouble : digits ≠ [] ∨ exponent.isSome = true) :
    number? negative whole digits exponent =
      (shift? (ofRatio negative (ofDigits (whole ++ digits)) 1)
        (exponent.getD 0 - digits.length)).map float := by
  have hwhole : addDigits 0 whole = (ofDigits whole, whole.length, []) :=
    addDigits_eq [] whole ((Decimal.ofDigits_le_append whole digits).trans_lt hfits)
  -- it is not a text of digits alone, which would be an integer
  have hnot : ¬(digits.isEmpty = true ∧ exponent.isNone = true) := by
    rintro ⟨hdigits, hexponent⟩
    rcases hdouble with h | h
    · exact h (List.isEmpty_iff.1 hdigits)
    · rw [Option.isNone_iff_eq_none] at hexponent
      rw [hexponent] at h
      exact Bool.noConfusion h
  rw [number?, hwhole]
  dsimp only
  rw [if_neg, addDigits_eq whole digits hfits]
  · rw [List.length_nil, Nat.cast_zero, add_zero]
  · simp only [Bool.and_eq_true]
    rintro ⟨⟨⟨⟨-, hdigits⟩, hexponent⟩, -⟩, -⟩
    exact hnot ⟨hdigits, hexponent⟩

/-- A text of digits alone is an integer, if it fits a machine word. -/
theorem number?_integer {n : ℕ} (hvalue : ofDigits whole = n)
    (hfits : fitsWord (if negative then -n else n) = true) (hzero : negative = true → n ≠ 0) :
    number? negative whole [] none = some (integer (if negative then -n else n)) := by
  -- what fits a word with its sign fits one without
  have hlt : n < Nat.pow 2 64 := by
    have hword : Nat.pow 2 63 < Nat.pow 2 64 := by decide
    rw [fitsWord, Bool.and_eq_true, decide_eq_true_eq, decide_eq_true_eq] at hfits
    split at hfits
    · omega
    · omega
  have hwhole : addDigits 0 whole = (ofDigits whole, whole.length, []) :=
    addDigits_eq [] whole (hvalue ▸ hlt)
  rw [number?, hwhole, hvalue]
  dsimp only
  rw [if_pos]
  rw [hfits]
  cases negative with
  | false => rfl
  | true =>
    have hn := hzero rfl
    simp [hn]

end

/-! ## Integers -/

theorem digitChar_ne_zero : ∀ n < 10, n ≠ 0 → Nat.digitChar n ≠ '0' := by decide

/-- The digits of a number do not begin with zero, but for zero itself. -/
theorem isWhole_toDigits (n : ℕ) : IsWhole (Nat.toDigits 10 n) := by
  have hall := Decimal.allDigits_toDigits n
  induction n using Nat.strongRecOn with
  | ind n ih =>
    rcases lt_or_ge n 10 with hlt | hge
    · rw [Nat.toDigits_of_lt_base hlt] at hall ⊢
      by_cases hzero : n = 0
      · rw [hzero]
        exact .zero
      · exact .digits (digitChar_ne_zero n hlt hzero) hall
    · -- the last digit is taken off, so the first is that of the others
      have hfirst := ih (n / 10) (by omega) (Decimal.allDigits_toDigits _)
      have hvalue := Decimal.ofDigits_toDigits (n / 10)
      rw [Nat.toDigits_of_base_le (by decide) hge] at hall ⊢
      generalize Nat.toDigits 10 (n / 10) = ds at hfirst hvalue hall ⊢
      cases hfirst with
      | zero =>
        have hzero : ofDigits ['0'] = 0 := rfl
        omega
      | digits hc => exact .digits hc hall

theorem readNumber_integer (negative : Bool) {n : ℕ} {rest : List Char}
    (hfits : fitsWord (if negative then -n else n) = true) (hzero : negative = true → n ≠ 0)
    (hrest : EndsNumber rest) :
    readNumber (signChars negative ++ (Nat.toDigits 10 n ++ rest)) =
      some (integer (if negative then -n else n), rest) := by
  have hparts := readNumber_parts negative (isWhole_toDigits n) .none none hrest
  rw [number?_integer (Decimal.ofDigits_toDigits n) hfits hzero] at hparts
  exact hparts

/-- **An integer is read back**, if it fits a machine word. -/
theorem readNumber_toString {n : ℤ} (h : fitsWord n = true) {rest : List Char}
    (hrest : EndsNumber rest) :
    readNumber ((toString n).toList ++ rest) = some (integer n, rest) := by
  cases n with
  | ofNat m =>
    have htext : (toString (Int.ofNat m)).toList = Nat.toDigits 10 m := Nat.toList_repr
    rw [htext]
    exact readNumber_integer false h (fun hfalse => Bool.noConfusion hfalse) hrest
  | negSucc m =>
    have htext : (toString (Int.negSucc m)).toList = '-' :: Nat.toDigits 10 (m + 1) := by
      show ("-" ++ Nat.repr (m + 1)).toList = _
      rw [String.toList_append, Nat.toList_repr]
      rfl
    rw [htext]
    exact readNumber_integer true h (fun _ => Nat.succ_ne_zero m) hrest

/-! ## Doubles -/

/-- **A text that is read as a double**, behind its sign. -/
inductive IsDoubleText (negative : Bool) : List Char → Prop
  | parts {whole digits fraction : List Char} {exponent : Option ℤ} (hwhole : IsWhole whole)
      (hfraction : IsFraction digits fraction) (hdouble : digits ≠ [] ∨ exponent.isSome = true)
      (hfits : ofDigits (whole ++ digits) < Nat.pow 2 64)
      (hshift : (shift? (ofRatio negative (ofDigits (whole ++ digits)) 1)
        (exponent.getD 0 - digits.length)).isSome = true) :
      IsDoubleText negative (whole ++ (fraction ++ exponentChars exponent))

theorem IsDoubleText.exists_readNumber {negative : Bool} {cs : List Char}
    (h : IsDoubleText negative cs) :
    ∃ d, ∀ rest, EndsNumber rest →
      readNumber (signChars negative ++ (cs ++ rest)) = some (float d, rest) := by
  cases h with
  | @parts whole digits fraction exponent hwhole hfraction hdouble hfits hshift =>
    obtain ⟨d, hd⟩ := Option.isSome_iff_exists.1 hshift
    refine ⟨d, fun rest hrest => ?_⟩
    have hparts := readNumber_parts negative hwhole hfraction exponent hrest
    rw [number?_double hfits hdouble, hd] at hparts
    rw [List.append_assoc, List.append_assoc]
    exact hparts

/-- A number with a point and no exponent is always read. -/
theorem isDoubleText_point (negative : Bool) {whole digits : List Char} (hwhole : IsWhole whole)
    (hsome : digits ≠ []) (hdigits : AllDigits digits)
    (hfits : ofDigits (whole ++ digits) < Nat.pow 2 64) :
    IsDoubleText negative (whole ++ '.' :: digits) := by
  have hneg : (none : Option ℤ).getD 0 - digits.length < 0 := by
    have hlength := List.length_pos_iff.2 hsome
    rw [Option.getD_none]
    omega
  have hparts : IsDoubleText negative (whole ++ ('.' :: digits ++ exponentChars none)) :=
    .parts hwhole (.point hsome hdigits) (Or.inl hsome) hfits (isSome_shift?_of_neg _ hneg)
  rwa [exponentChars, List.append_nil] at hparts

theorem IsWhole.take {ds : List Char} (h : IsWhole ds) {n : ℕ} (hn : n ≠ 0) :
    IsWhole (ds.take n) := by
  obtain ⟨n, rfl⟩ := Nat.exists_eq_succ_of_ne_zero hn
  cases h with
  | zero =>
    rw [List.take_succ_cons, List.take_nil]
    exact .zero
  | digits hc hds =>
    refine .digits hc fun c hmem => hds c ?_
    exact (List.take_sublist (n + 1) _).subset hmem

theorem IsWhole.length_pos {ds : List Char} (h : IsWhole ds) : 0 < ds.length := by
  cases h with
  | zero => exact Nat.one_pos
  | digits => exact Nat.succ_pos _

theorem ten_pow_lt_word : 10 ^ 17 < Nat.pow 2 64 := by decide

section

variable (negative : Bool) {ds : List Char} {point : ℤ}

/-- A number with all of its digits in front of the point. -/
theorem isDoubleText_whole (hds : IsWhole ds) (hlength : ds.length ≤ 16) :
    IsDoubleText negative (ds ++ ['.', '0']) := by
  have hone : AllDigits ['0'] := List.forall_mem_singleton.2 rfl
  have hall := hds.allDigits.append hone
  have hpower : 10 ^ (ds ++ ['0']).length ≤ 10 ^ 17 := by
    apply Nat.pow_le_pow_right (by decide)
    rw [List.length_append, List.length_singleton]
    omega
  exact isDoubleText_point negative hds (List.cons_ne_nil _ _) hone
    ((Decimal.ofDigits_lt hall).trans_le (hpower.trans ten_pow_lt_word.le))

/-- Digits in place, the point behind, among or in front of them. -/
theorem isDoubleText_placed (hds : IsWhole ds) (hzero : ds ≠ ['0'])
    (hfits : ofDigits ds ≤ 10 ^ 17) (hpoint : point ≤ 16) :
    IsDoubleText negative (Double.placed ds point).toList := by
  have hword := hfits.trans_lt ten_pow_lt_word
  unfold Double.placed Double.zeros
  split
  · -- the point stands behind all digits, and zeros fill the places between
    rename_i hbehind
    have hlong : IsWhole (ds ++ List.replicate (point - ds.length).toNat '0') := by
      cases hds with
      | zero => exact absurd rfl hzero
      | digits hc hds =>
        exact .digits hc (hds.append (Decimal.allDigits_zeros _))
    simp only [String.toList_append, String.toList_ofList]
    apply isDoubleText_whole negative hlong
    rw [List.length_append, List.length_replicate]
    omega
  split
  · -- among the digits, behind the first at least
    rename_i hshort hamong
    simp only [String.toList_append, String.toList_ofList, List.append_assoc]
    show IsDoubleText negative (ds.take point.toNat ++ '.' :: ds.drop point.toNat)
    apply isDoubleText_point negative (hds.take (by omega))
    · rw [Ne, List.drop_eq_nil_iff]
      omega
    · exact fun d hd => hds.allDigits d ((List.drop_sublist _ _).subset hd)
    · rwa [List.take_append_drop]
  · -- in front of them, behind a zero of its own and with zeros behind it
    rename_i hshort hbefore
    simp only [String.toList_append, String.toList_ofList, List.append_assoc]
    show IsDoubleText negative (['0'] ++ '.' :: (List.replicate (-point).toNat '0' ++ ds))
    apply isDoubleText_point negative .zero
    · have hlength := hds.length_pos
      rw [← List.length_pos_iff, List.length_append]
      omega
    · exact (Decimal.allDigits_zeros _).append hds.allDigits
    · have hzeros := Decimal.ofDigits_zeros_append ((-point).toNat + 1) ds
      rw [List.replicate_succ, List.cons_append] at hzeros
      show ofDigits ('0' :: (List.replicate _ '0' ++ ds)) < _
      rwa [hzeros]

/-- Digits with an exponent, which moves the point behind the first of them. -/
theorem isDoubleText_scaled (hds : IsWhole ds) (hfits : ofDigits ds ≤ 10 ^ 17) {k : ℤ}
    (hshift : (shift? (ofRatio negative (ofDigits ds) 1) k).isSome = true) :
    IsDoubleText negative (Double.scaled ds (ds.length + k)).toList := by
  have hlength := hds.length_pos
  -- a single digit has no point
  have hfraction : IsFraction (ds.drop 1) (if ds.length ≤ 1 then [] else '.' :: ds.drop 1) := by
    split
    · rename_i hone
      rw [List.drop_eq_nil_iff.2 hone]
      exact .none
    · rename_i hmore
      refine .point ?_ fun d hd => hds.allDigits d ((List.drop_sublist _ _).subset hd)
      rw [Ne, List.drop_eq_nil_iff]
      omega
  have hvalue : ds.take 1 ++ ds.drop 1 = ds := List.take_append_drop 1 ds
  have htext : (Double.scaled ds (ds.length + k)).toList = ds.take 1 ++
      ((if ds.length ≤ 1 then [] else '.' :: ds.drop 1) ++
        exponentChars (some (ds.length + k - 1))) := by
    rw [Double.scaled, String.toList_append, String.toList_append, String.toList_ofList,
      List.append_assoc, exponentChars]
    split
    · rfl
    · simp only [String.toList_append, String.toList_ofList]
      rfl
  have hpower : (some (ds.length + k - 1)).getD 0 - ((ds.drop 1).length : ℤ) = k := by
    rw [Option.getD_some, List.length_drop]
    omega
  rw [htext]
  refine .parts (hds.take one_ne_zero) hfraction (Or.inr rfl) ?_ ?_
  · rw [hvalue]
    exact hfits.trans_lt ten_pow_lt_word
  · rw [hvalue, hpower]
    exact hshift

end

/-- **Every finite double is written as a text that is read as a double.** The layout depends on
where the point stands; the digits and their number are those of `Double.shortest_spec`. -/
theorem isDoubleText_text {d : Double} (h : d.Finite) : ∃ cs,
    (d.text .compact).toList = signChars d.negative ++ cs ∧ IsDoubleText d.negative cs := by
  obtain ⟨⟨c, k⟩, hshortest⟩ : ∃ p, d.shortest = p := ⟨_, rfl⟩
  have hbody : ∀ body : String, (if d.negative then "-" ++ body else body).toList =
      signChars d.negative ++ body.toList := by
    intro body
    cases d.negative with
    | false => rfl
    | true => exact String.toList_append
  rw [Double.text, hshortest]
  dsimp only
  rw [hbody]
  refine ⟨_, rfl, ?_⟩
  -- zero, digits in place, and digits with an exponent
  split
  · exact isDoubleText_whole d.negative .zero (by decide)
  rename_i hc
  obtain ⟨hfits, -⟩ := Double.shortest_spec hshortest hc
  have hds := isWhole_toDigits c
  have hvalue := Decimal.ofDigits_toDigits c
  split
  · rename_i hplace
    apply isDoubleText_placed d.negative hds
    · rintro hzero
      rw [hzero] at hvalue
      exact hc hvalue.symm
    · rwa [hvalue]
    · exact of_decide_eq_true (Bool.and_eq_true_iff.1 hplace).2
  · apply isDoubleText_scaled d.negative hds
    · rwa [hvalue]
    · rw [hvalue]
      exact isSome_shift?_shortest h d.negative hshortest hc

/-- **The text of a double is read as a double.** -/
theorem exists_readNumber_text {d : Double} (h : d.Finite) :
    ∃ e, ∀ rest, EndsNumber rest →
      readNumber ((d.text .compact).toList ++ rest) = some (float e, rest) := by
  obtain ⟨cs, hcs, htext⟩ := isDoubleText_text h
  obtain ⟨e, he⟩ := htext.exists_readNumber
  refine ⟨e, fun rest hrest => ?_⟩
  rw [hcs, List.append_assoc]
  exact he rest hrest

end Json

end CatalogEntities
