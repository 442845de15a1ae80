import CatalogEntities.Decimal.Basic

/-!
# `Proofs/Decimal.lean` — which texts are decimal numbers

The grammar of decimal numbers, written down part by part and without a reader: a sign, digits, a
fraction, an exponent. `Decimal.isSome_read?_iff` says that what is read are exactly the texts of
the grammar, so nothing else can pass for a number, and no number is missed.

The reader takes each part as far as it goes. That it takes no more than the part is seen from the
character behind it, which is no digit: a point, an exponent mark, or none.

The grammar is that of the reader of doubles which `is_number` calls, without its words: `inf` and
`nan` are read there too, and are then no numbers for not being finite. Every lemma is about a part
in front of a rest that is left free, so that they can be used in turn.
-/

set_option autoImplicit false

namespace CatalogEntities.Decimal

/-! ## The grammar -/

/-- Digits and nothing else. There may be none. -/
def AllDigits (ds : List Char) : Prop := ∀ c ∈ ds, c.isDigit = true

/-- A sign, which may be missing. -/
inductive IsSign : List Char → Prop
  | none : IsSign []
  | plus : IsSign ['+']
  | minus : IsSign ['-']

/-- A fraction with its digits, of which there may be none. -/
inductive IsFraction : List Char → List Char → Prop
  | none : IsFraction [] []
  | point {ds : List Char} (hds : AllDigits ds) : IsFraction ds ('.' :: ds)

/-- An exponent, which may be missing. Where there is a mark there are digits. -/
inductive IsExponent : List Char → Prop
  | none : IsExponent []
  | mark {mark : Char} {sign ds : List Char} (hmark : mark = 'e' ∨ mark = 'E')
      (hsign : IsSign sign) (hsome : ds ≠ []) (hds : AllDigits ds) :
      IsExponent (mark :: (sign ++ ds))

/-- **A decimal number as it is written**, with a digit before or behind the point. -/
inductive IsNumeral : List Char → Prop
  | parts {sign whole digits fraction exponent : List Char} (hsign : IsSign sign)
      (hwhole : AllDigits whole) (hfraction : IsFraction digits fraction)
      (hsome : whole ≠ [] ∨ digits ≠ []) (hexponent : IsExponent exponent) :
      IsNumeral (sign ++ (whole ++ (fraction ++ exponent)))

/-! ## What the reader takes -/

/-- What is taken for a sign is one, -/
theorem exists_sign (cs : List Char) : ∃ sign, IsSign sign ∧ cs = sign ++ (takeSign cs).2 := by
  unfold takeSign
  split
  · exact ⟨['+'], .plus, rfl⟩
  · exact ⟨['-'], .minus, rfl⟩
  · exact ⟨[], .none, rfl⟩

theorem allDigits_takeWhile (cs : List Char) : AllDigits (cs.takeWhile Char.isDigit) :=
  List.all_eq_true.1 List.all_takeWhile

/-- and what is taken for a fraction is one. -/
theorem exists_fraction (cs : List Char) :
    ∃ fraction, IsFraction (takeFraction cs).1 fraction ∧
      cs = fraction ++ (takeFraction cs).2 := by
  unfold takeFraction
  split
  · rename_i rest
    refine ⟨'.' :: rest.takeWhile Char.isDigit, .point (allDigits_takeWhile rest), ?_⟩
    rw [List.cons_append, List.takeWhile_append_dropWhile]
  · exact ⟨[], .none, rfl⟩

/-- The exponent is the last part, so it has to be all of the rest. -/
theorem isExponent_of_isSome {cs : List Char} (h : (readExponent cs).isSome = true) :
    IsExponent cs := by
  cases cs with
  | nil => exact .none
  | cons mark rest =>
    simp only [readExponent] at h
    split at h
    · rename_i hmark
      split at h
      · exact Bool.noConfusion h
      · rename_i hdigits
        obtain ⟨sign, hsign, hrest⟩ := exists_sign rest
        simp only [Bool.or_eq_true, Bool.not_eq_true', not_or, List.isEmpty_iff,
          Bool.not_eq_false] at hdigits
        simp only [Bool.or_eq_true, decide_eq_true_eq] at hmark
        rw [hrest]
        exact .mark hmark hsign hdigits.1 (List.all_eq_true.1 hdigits.2)
    · exact Bool.noConfusion h

/-- **What is read is a number of the grammar**: it is put together again from the parts that the
reader took. -/
theorem isNumeral_of_isSome {cs : List Char} (h : (read? cs).isSome = true) : IsNumeral cs := by
  obtain ⟨sign, hsign, hcs⟩ := exists_sign cs
  obtain ⟨fraction, hfraction, hrest⟩ :=
    exists_fraction ((takeSign cs).2.dropWhile Char.isDigit)
  have hparts : cs = sign ++ ((takeSign cs).2.takeWhile Char.isDigit ++ (fraction ++
      (takeFraction ((takeSign cs).2.dropWhile Char.isDigit)).2)) := by
    rw [← hrest, List.takeWhile_append_dropWhile, ← hcs]
  simp only [read?] at h
  split at h
  · exact Bool.noConfusion h
  · rename_i hsome
    rw [Option.isSome_map] at h
    rw [hparts]
    refine .parts hsign (allDigits_takeWhile _) hfraction ?_ (isExponent_of_isSome h)
    simp only [Bool.and_eq_true, List.isEmpty_iff] at hsome
    exact Decidable.not_and_iff_not_or_not.1 hsome

/-! ## The digits of a number -/

theorem allDigits_toDigits (n : Nat) : AllDigits (Nat.toDigits 10 n) := fun _ hc =>
  Nat.isDigit_of_mem_toDigits (by decide) (by decide) hc

theorem ofDigits_toDigits (n : Nat) : ofDigits (Nat.toDigits 10 n) = n :=
  Nat.ofDigitChars_ten_toDigits

theorem AllDigits.append {ds es : List Char} (hds : AllDigits ds) (hes : AllDigits es) :
    AllDigits (ds ++ es) := fun c hc => (List.mem_append.1 hc).elim (hds c) (hes c)

theorem allDigits_zeros (count : Nat) : AllDigits (List.replicate count '0') := by
  intro c hc
  rw [List.eq_of_mem_replicate hc]
  rfl

/-- Zeros in front of digits do not count. -/
theorem ofDigits_zeros_append (count : Nat) (ds : List Char) :
    ofDigits (List.replicate count '0' ++ ds) = ofDigits ds := by
  induction count with
  | zero => rfl
  | succ count ih => exact ih

/-! ## Where the reader stops -/

theorem AllDigits.takeWhile_append {ds rest : List Char} (hds : AllDigits ds)
    (hrest : ∀ c ∈ rest.head?, c.isDigit = false) : (ds ++ rest).takeWhile Char.isDigit = ds := by
  rw [List.takeWhile_append_of_pos hds]
  cases rest with
  | nil => simp
  | cons c rest => simp [hrest c rfl]

theorem AllDigits.dropWhile_append {ds rest : List Char} (hds : AllDigits ds)
    (hrest : ∀ c ∈ rest.head?, c.isDigit = false) :
    (ds ++ rest).dropWhile Char.isDigit = rest := by
  rw [List.dropWhile_append_of_pos hds]
  cases rest with
  | nil => rfl
  | cons c rest => simp [hrest c rfl]

/-- Neither an exponent nor a fraction begins with a digit. -/
theorem IsExponent.head_not_digit {exponent : List Char} (h : IsExponent exponent) :
    ∀ c ∈ exponent.head?, c.isDigit = false ∧ c ≠ '.' := by
  cases h with
  | none => simp
  | mark hmark =>
    intro c hc
    obtain rfl := Option.some.inj hc
    rcases hmark with rfl | rfl
    · decide
    · decide

theorem IsFraction.head_not_digit {digits fraction exponent : List Char}
    (h : IsFraction digits fraction) (hexponent : IsExponent exponent) :
    ∀ c ∈ (fraction ++ exponent).head?, c.isDigit = false := by
  intro c hc
  cases h with
  | none => exact (hexponent.head_not_digit c hc).1
  | point =>
    obtain rfl := Option.some.inj hc
    decide

/-- What is no sign is not taken for one. -/
theorem takeSign_of_head {cs : List Char} (h : ∀ c ∈ cs.head?, c ≠ '+' ∧ c ≠ '-') :
    (takeSign cs).2 = cs := by
  unfold takeSign
  split
  · exact absurd rfl (h '+' rfl).1
  · exact absurd rfl (h '-' rfl).2
  · rfl

theorem IsSign.takeSign_append {sign rest : List Char} (hsign : IsSign sign)
    (hrest : ∀ c ∈ rest.head?, c ≠ '+' ∧ c ≠ '-') : (takeSign (sign ++ rest)).2 = rest := by
  cases hsign with
  | none => exact takeSign_of_head hrest
  | plus => rfl
  | minus => rfl

theorem ne_sign_of_isDigit {c : Char} (h : c.isDigit = true) : c ≠ '+' ∧ c ≠ '-' := by
  constructor
  · rintro rfl
    exact absurd h (by decide)
  · rintro rfl
    exact absurd h (by decide)

theorem AllDigits.head_not_sign {ds rest : List Char} (hds : AllDigits ds) (hsome : ds ≠ []) :
    ∀ c ∈ (ds ++ rest).head?, c ≠ '+' ∧ c ≠ '-' := by
  cases ds with
  | nil => exact absurd rfl hsome
  | cons first others =>
    intro c hc
    obtain rfl := Option.some.inj hc
    exact ne_sign_of_isDigit (hds first List.mem_cons_self)

/-- A fraction is taken as far as its digits go. Where there is none, an exponent behind it does not
begin with a point and is not taken for one. -/
theorem IsFraction.takeFraction_append {digits fraction exponent : List Char}
    (h : IsFraction digits fraction) (hexponent : IsExponent exponent) :
    takeFraction (fraction ++ exponent) = (digits, exponent) := by
  have hdigit : ∀ c ∈ exponent.head?, c.isDigit = false :=
    fun c hc => (hexponent.head_not_digit c hc).1
  cases h with
  | none =>
    rw [List.nil_append]
    unfold takeFraction
    split
    · exact absurd rfl (hexponent.head_not_digit '.' rfl).2
    · rfl
  | point hds =>
    rw [List.cons_append]
    simp only [takeFraction]
    rw [hds.takeWhile_append hdigit, hds.dropWhile_append hdigit]

/-- Every exponent is read. -/
theorem IsExponent.isSome_readExponent {exponent : List Char} (h : IsExponent exponent) :
    (readExponent exponent).isSome = true := by
  cases h with
  | none => rfl
  | @mark mark sign ds hmark hsign hsome hds =>
    have htake : (takeSign (sign ++ ds)).2 = ds := by
      apply hsign.takeSign_append
      intro c hc
      have hhead : c ∈ (ds ++ []).head? := by
        rw [List.append_nil]
        exact hc
      exact hds.head_not_sign hsome c hhead
    have hall : ds.all Char.isDigit = true := List.all_eq_true.2 hds
    have hempty : ds.isEmpty = false := by simpa using hsome
    simp [readExponent, htake, hall, hempty, hmark]

/-- The first character behind the sign is a digit or a point. -/
theorem head_not_sign {whole digits fraction exponent : List Char} (hwhole : AllDigits whole)
    (hfraction : IsFraction digits fraction) (hsome : whole ≠ [] ∨ digits ≠ []) :
    ∀ c ∈ (whole ++ (fraction ++ exponent)).head?, c ≠ '+' ∧ c ≠ '-' := by
  by_cases hempty : whole = []
  · cases hfraction with
    | none =>
      rcases hsome with h | h
      · exact absurd hempty h
      · exact absurd rfl h
    | point =>
      intro c hc
      rw [hempty] at hc
      obtain rfl := Option.some.inj hc
      decide
  · exact hwhole.head_not_sign hempty

/-- **What is read as a decimal number are the texts of the grammar.** -/
theorem isSome_read?_iff {cs : List Char} : (read? cs).isSome = true ↔ IsNumeral cs := by
  constructor
  · exact isNumeral_of_isSome
  · -- each part is followed by something that cannot be taken for more of it
    intro h
    cases h with
    | parts hsign hwhole hfraction hsome hexponent =>
      have hdigit := hfraction.head_not_digit hexponent
      simp only [read?]
      rw [hsign.takeSign_append (head_not_sign hwhole hfraction hsome),
        hwhole.takeWhile_append hdigit, hwhole.dropWhile_append hdigit,
        hfraction.takeFraction_append hexponent]
      rw [if_neg, Option.isSome_map]
      · exact hexponent.isSome_readExponent
      · simp only [Bool.and_eq_true, List.isEmpty_iff]
        exact fun hnone => hsome.elim (fun h => h hnone.1) fun h => h hnone.2

end CatalogEntities.Decimal
