import CatalogEntities.Instant
import Mathlib.Tactic.IntervalCases

/-!
# `Proofs/Instant/Calendar.lean` — the calendar by its rule

The calendar once more, as it is told: which years are leap years, how long the months are, and that
days are counted one after the other (`CalendarDay.number`). Nothing in it is cut in March and
nothing repeats after four hundred years.

`ofDays_spec` says that the calendar day of a number is the day with that number, for days before
1970 and before the year one as well. A number is taken apart into full centuries, groups of four
years, single years and the days that are left (`exists_parts`), and each quotient of the
computation is told in these parts.

The computation takes a year to begin in March, so that the leap day is the last of its year and
months begin at days that do not depend on the year. The parts are those of such years. Once every
quotient is an expression in them, what is left is linear, and the only nonlinear step is which
years are leap years (`isLeap_succ_iff`).
-/

set_option autoImplicit false

namespace CatalogEntities.CalendarDay

/-! ## The rule -/

/-- **A leap year**: every fourth, but of the full centuries only every fourth. -/
def IsLeap (year : Int) : Prop := year % 4 = 0 ∧ (year % 100 = 0 → year % 400 = 0)

instance (year : Int) : Decidable (IsLeap year) := inferInstanceAs (Decidable (_ ∧ _))

/-- How many days a year has. -/
def yearLength (year : Int) : Nat := if IsLeap year then 366 else 365

/-- How many days a month has, from January as the first. -/
def monthLength (year : Int) : Nat → Nat
  | 2 => if IsLeap year then 29 else 28
  | 4 | 6 | 9 | 11 => 30
  | _ => 31

/-- A day that there is: a month of twelve, and a day of that month. -/
structure Valid (d : CalendarDay) : Prop where
  month : 1 ≤ d.month ∧ d.month ≤ 12
  day : 1 ≤ d.day ∧ d.day ≤ monthLength d.year d.month

instance (d : CalendarDay) : Decidable d.Valid :=
  decidable_of_iff
    ((1 ≤ d.month ∧ d.month ≤ 12) ∧ 1 ≤ d.day ∧ d.day ≤ monthLength d.year d.month)
    ⟨fun h => ⟨h.1, h.2⟩, fun h => ⟨h.month, h.day⟩⟩

theorem monthLength_le (year : Int) (month : Nat) : monthLength year month ≤ 31 := by
  unfold monthLength
  split
  · split
    · decide
    · decide
  · decide
  · decide
  · decide
  · decide
  · decide

/-- The days from the beginning of the year one to that of a year: as many as the years have, with
one more for each leap year among them (`beforeYear_succ`). -/
def beforeYear (year : Int) : Int :=
  365 * (year - 1) + (year - 1) / 4 - (year - 1) / 100 + (year - 1) / 400

/-- The days of a year before a month of it. -/
def beforeMonth (year : Int) : Nat → Nat
  | 0 | 1 => 0
  | month + 2 => beforeMonth year (month + 1) + monthLength year (month + 1)

/-- **The number of a day**, counted from the beginning of 1970. -/
def number (d : CalendarDay) : Int :=
  beforeYear d.year - beforeYear 1970 + beforeMonth d.year d.month + (d.day - 1 : Nat)

/-- A year begins when the one before it is over. -/
theorem beforeYear_succ (year : Int) :
    beforeYear (year + 1) = beforeYear year + yearLength year := by
  unfold beforeYear yearLength
  split
  · rename_i h
    unfold IsLeap at h
    omega
  · rename_i h
    unfold IsLeap at h
    omega

/-! ## Years of a cycle -/

section

variable {c q s rest : Nat}

/-- A day of four hundred years as full centuries, full groups of four years, full years and days.
The last day of a group, and of the cycle, belongs to the year before it. -/
theorem exists_parts (day : Nat) (h : day < 146097) :
    ∃ c q s rest, day = 36524 * c + 1461 * q + 365 * s + rest ∧ c < 4 ∧ q < 25 ∧ s < 4 ∧
      (rest < 365 ∨ rest = 365 ∧ s = 3 ∧ (q < 24 ∨ c = 3)) := by
  refine ⟨min 3 (day / 36524), (day - 36524 * min 3 (day / 36524)) / 1461,
    min 3 ((day - 36524 * min 3 (day / 36524)) % 1461 / 365),
    (day - 36524 * min 3 (day / 36524)) % 1461 -
      365 * min 3 ((day - 36524 * min 3 (day / 36524)) % 1461 / 365), ?_, ?_, ?_, ?_, ?_⟩
  · omega
  · omega
  · omega
  · omega
  · omega

/-- **The year of a day** in its cycle. The computation divides the days by 1460 and corrects for
leap days, centuries and the last day of the cycle; in the parts each of these quotients is known.
-/
theorem yearOfCycle_eq (hc : c < 4) (hq : q < 25) (hs : s < 4)
    (hrest : rest < 365 ∨ rest = 365 ∧ s = 3 ∧ (q < 24 ∨ c = 3)) :
    yearOfCycle (36524 * c + 1461 * q + 365 * s + rest) = 100 * c + 4 * q + s := by
  by_cases hlast : rest = 365 ∧ q = 24
  · -- the last day of the cycle
    obtain ⟨rfl, rfl⟩ := hlast
    obtain ⟨rfl, rfl⟩ : s = 3 ∧ c = 3 := by omega
    rfl
  -- a leap day may be one too late for the pattern of 1460 days
  have hlate : ∃ late, (24 * c + q + 365 * s + rest) / 1460 = late ∧ late ≤ rest ∧
      rest < 365 + late := by
    by_cases hearly : 24 * c + q + 365 * s + rest < 1460
    · exact ⟨0, Nat.div_eq_of_lt hearly, by omega, by omega⟩
    · exact ⟨1, Nat.div_eq_of_lt_le (by omega) (by omega), by omega, by omega⟩
  obtain ⟨late, hlate, hle, hlt⟩ := hlate
  have h4 : (36524 * c + 1461 * q + 365 * s + rest) / 1460 = late + (25 * c + q) := by
    have hday : 36524 * c + 1461 * q + 365 * s + rest =
        24 * c + q + 365 * s + rest + 1460 * (25 * c + q) := by omega
    rw [hday, Nat.add_mul_div_left _ _ (by decide), hlate]
  have h100 : (36524 * c + 1461 * q + 365 * s + rest) / 36524 = c :=
    Nat.div_eq_of_lt_le (by omega) (by omega)
  have h400 : (36524 * c + 1461 * q + 365 * s + rest) / 146096 = 0 :=
    Nat.div_eq_of_lt (by omega)
  rw [yearOfCycle, h4, h100, h400]
  clear h4 h100 h400 hlate
  apply Nat.div_eq_of_lt_le
  · omega
  · omega

/-- The days before a year of the cycle. -/
theorem startOfYear_eq (hq : q < 25) (hs : s < 4) :
    startOfYear (100 * c + 4 * q + s) = 36524 * c + 1461 * q + 365 * s := by
  have h4 : (100 * c + 4 * q + s) / 4 = 25 * c + q := Nat.div_eq_of_lt_le (by omega) (by omega)
  have h100 : (100 * c + 4 * q + s) / 100 = c := Nat.div_eq_of_lt_le (by omega) (by omega)
  rw [startOfYear, h4, h100]
  omega

/-- Which year follows upon one that begins in March: it is a leap year if that has a leap day. -/
theorem isLeap_succ_iff (n : Int) (hc : c < 4) (hq : q < 25) (hs : s < 4) :
    IsLeap (400 * n + (100 * c + 4 * q + s : Nat) + 1) ↔ s = 3 ∧ (q < 24 ∨ c = 3) := by
  unfold IsLeap
  omega

/-- The days before a year by the rule, in the same parts. -/
theorem beforeYear_eq (n : Int) (hc : c < 4) (hq : q < 25) (hs : s < 4) :
    beforeYear (400 * n + (100 * c + 4 * q + s : Nat) + 1) =
      146097 * n + (36524 * c + 1461 * q + 365 * s : Nat) := by
  unfold beforeYear
  omega

end

/-! ## Months -/

/-- Months counted from March on. -/
theorem startOfMonth_spec (rest : Nat) (h : rest < 366) :
    (5 * rest + 2) / 153 < 12 ∧ startOfMonth ((5 * rest + 2) / 153) ≤ rest ∧
      rest < startOfMonth ((5 * rest + 2) / 153 + 1) := by
  unfold startOfMonth
  omega

/-- From March on the beginnings of the months do not depend on the year but for its length. -/
theorem beforeMonth_eq (year : Int) {month : Nat} (h : month < 10) :
    beforeMonth year (month + 3) + 306 = startOfMonth month + yearLength year := by
  unfold yearLength
  interval_cases month
  all_goals
    simp only [beforeMonth, monthLength, startOfMonth]
    split
    all_goals rfl

theorem monthLength_eq (year : Int) {month : Nat} (h : month < 10) :
    startOfMonth month + monthLength year (month + 3) = startOfMonth (month + 1) := by
  interval_cases month
  all_goals rfl

/-! ## Days -/

/-- A day of a year that begins in March, up to December. -/
theorem spec_of_lt_ten (year : Int) {month rest : Nat} (h : month < 10)
    (hstart : startOfMonth month ≤ rest) (hend : rest < startOfMonth (month + 1)) :
    Valid ⟨year, month + 3, rest - startOfMonth month + 1⟩ ∧
      number ⟨year, month + 3, rest - startOfMonth month + 1⟩ =
        beforeYear (year + 1) - beforeYear 1970 - 306 + rest := by
  have hlength := monthLength_eq year h
  have hmonth := beforeMonth_eq year h
  have hyear := beforeYear_succ year
  refine ⟨⟨?_, ?_⟩, ?_⟩
  · dsimp only
    omega
  · dsimp only
    omega
  · rw [number]
    dsimp only
    omega

/-- A day of a year that begins in March, in January or February. It belongs to the next year of the
calendar, and if it is the leap day, then that is a leap year. -/
theorem spec_of_ge_ten (year : Int) {month rest : Nat} (h : month = 10 ∨ month = 11)
    (hstart : startOfMonth month ≤ rest) (hend : rest < startOfMonth (month + 1))
    (hrest : rest < 365 ∨ rest = 365 ∧ IsLeap year) :
    Valid ⟨year, month - 9, rest - startOfMonth month + 1⟩ ∧
      number ⟨year, month - 9, rest - startOfMonth month + 1⟩ =
        beforeYear year - beforeYear 1970 - 306 + rest := by
  have h10 : startOfMonth 10 = 306 := rfl
  have h11 : startOfMonth 11 = 337 := rfl
  have hmonth : beforeMonth year (month - 9) + 306 = startOfMonth month ∧
      rest < startOfMonth month + monthLength year (month - 9) := by
    rcases h with rfl | rfl
    · exact ⟨rfl, hend⟩
    · refine ⟨rfl, ?_⟩
      show rest < 337 + if IsLeap year then 29 else 28
      split
      · omega
      · rename_i hleap
        rcases hrest with hrest | ⟨-, hrest⟩
        · exact hrest
        · exact absurd hrest hleap
  refine ⟨⟨?_, ?_⟩, ?_⟩
  · dsimp only
    omega
  · dsimp only
    omega
  · rw [number]
    dsimp only
    omega

/-- **The calendar day of a number is there, and has that number.** -/
theorem ofDays_spec (days : Int) : (ofDays days).Valid ∧ (ofDays days).number = days := by
  have hcycle : days + epoch = 146097 * ((days + epoch) / cycle) + ((days + epoch) % cycle) :=
    (Int.mul_ediv_add_emod (days + epoch) cycle).symm
  have hnonneg : 0 ≤ (days + epoch) % cycle := Int.emod_nonneg _ (by decide)
  have hlt : (days + epoch) % cycle < 146097 := Int.emod_lt_of_pos _ (by decide)
  obtain ⟨day, hday⟩ := Int.eq_ofNat_of_zero_le hnonneg
  obtain ⟨c, q, s, rest, rfl, hc, hq, hs, hrest⟩ := exists_parts day (by omega)
  generalize hn : (days + epoch) / cycle = n at hcycle
  -- the computation, with every quotient in parts
  have hdate : ofDays days =
      { year := n * 400 + (100 * c + 4 * q + s : Nat) + (if (5 * rest + 2) / 153 < 10 then 0 else 1)
        month := if (5 * rest + 2) / 153 < 10 then (5 * rest + 2) / 153 + 3
          else (5 * rest + 2) / 153 - 9
        day := rest - startOfMonth ((5 * rest + 2) / 153) + 1 } := by
    simp only [ofDays, hday, Int.toNat_natCast, yearOfCycle_eq hc hq hs hrest,
      startOfYear_eq hq hs, Nat.add_sub_cancel_left, hn]
  obtain ⟨hmonth, hstart, hend⟩ := startOfMonth_spec rest (by omega)
  have hbefore := beforeYear_eq n hc hq hs
  have hleap := isLeap_succ_iff n hc hq hs
  rw [Int.mul_comm 400 n] at hbefore hleap
  -- the number of the day by its year, which both kinds of months share
  have hnumber : beforeYear (n * 400 + (100 * c + 4 * q + s : Nat) + 1) - beforeYear 1970 - 306 +
      rest = days := by
    have h1970 : beforeYear 1970 = 719162 := by decide
    have hepoch : epoch = 719468 := rfl
    rw [hbefore, h1970]
    omega
  rw [hdate]
  generalize (5 * rest + 2) / 153 = month at hmonth hstart hend ⊢
  by_cases hlate : month < 10
  · rw [if_pos hlate, if_pos hlate, Int.add_zero, ← hnumber]
    exact spec_of_lt_ten _ hlate hstart hend
  · rw [if_neg hlate, if_neg hlate, ← hnumber]
    refine spec_of_ge_ten _ (by omega) hstart hend ?_
    rw [hleap]
    omega

end CatalogEntities.CalendarDay
