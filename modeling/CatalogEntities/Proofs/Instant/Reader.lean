import CatalogEntities.Proofs.Decimal
import CatalogEntities.Proofs.Instant.Calendar
import CatalogEntities.Proofs.Text.Reader

/-!
# `Proofs/Instant/Reader.lean` — which instant a text denotes

A reader of times as they are commonly exchanged: a date, the letter `T`, a time of day and the
letter `Z`. A year is written in four digits, or with a sign and in at least four; a second may have
up to nine digits behind a point. Second 60 is a leap second, and no later than the second before it
but for its part.

`Instant.read?_text` says that the text of an instant denotes it, to the nanosecond, in every year.

The format is the one that `DateTime<Utc>` is serialized in. How many digits of a second are written
depends on the instant, three, six or nine, or none at all; the reader takes any number of them, so
that nothing about the choice has to be remembered. A leap second is an instant with more than a
second of nanoseconds, as the library has it, and the reader gives it back as that.
-/

set_option autoImplicit false

namespace CatalogEntities.Instant

open CatalogEntities.Decimal (AllDigits ofDigits)

/-! ## The reader -/

/-- A number in exactly so many digits. -/
def takeDigits (width : Nat) (cs : List Char) : Option (Nat × List Char) :=
  if (cs.take width).length = width ∧ (cs.take width).all Char.isDigit then
    some (ofDigits (cs.take width), cs.drop width)
  else none

/-- A number in at least so many digits. -/
def takeLong (width : Nat) (cs : List Char) : Option (Nat × List Char) :=
  if width ≤ (cs.takeWhile Char.isDigit).length then
    some (ofDigits (cs.takeWhile Char.isDigit), cs.dropWhile Char.isDigit)
  else none

/-- A year in four digits, or in at least four behind a sign. -/
def takeYear : List Char → Option (Int × List Char)
  | '+' :: cs => (takeLong 4 cs).map fun (n, rest) => (n, rest)
  | '-' :: cs => (takeLong 4 cs).map fun (n, rest) => (-n, rest)
  | cs => (takeDigits 4 cs).map fun (n, rest) => (n, rest)

/-- The nanoseconds behind the point of a second. Where there is no point there are none. -/
def takePart : List Char → Option (Nat × List Char)
  | '.' :: cs =>
      let ds := cs.takeWhile Char.isDigit
      if 1 ≤ ds.length ∧ ds.length ≤ 9 then
        some (ofDigits ds * 10 ^ (9 - ds.length), cs.dropWhile Char.isDigit)
      else none
  | cs => some (0, cs)

/-- The instant of a day and a time of it. -/
def ofParts? (date : CalendarDay) (hour minute sec nanos : Nat) : Option Instant :=
  if date.Valid ∧ hour < 24 ∧ minute < 60 ∧ sec ≤ 60 then
    let start := date.number * 86400 + hour * 3600 + minute * 60
    some (if sec = 60 then ⟨start + 59, second + nanos⟩ else ⟨start + sec, nanos⟩)
  else none

/-- **The instant that a text denotes.** -/
def read? (text : String) : Option Instant := do
  let (year, cs) ← takeYear text.toList
  let cs ← Text.after? "-" cs
  let (month, cs) ← takeDigits 2 cs
  let cs ← Text.after? "-" cs
  let (day, cs) ← takeDigits 2 cs
  let cs ← Text.after? "T" cs
  let (hour, cs) ← takeDigits 2 cs
  let cs ← Text.after? ":" cs
  let (minute, cs) ← takeDigits 2 cs
  let cs ← Text.after? ":" cs
  let (sec, cs) ← takeDigits 2 cs
  let (nanos, cs) ← takePart cs
  if cs = ['Z'] then ofParts? ⟨year, month, day⟩ hour minute sec nanos else none

/-- **An instant that there is**: a part of a second, or a leap second, which follows upon
second 59. -/
structure Admitted (i : Instant) : Prop where
  /-- Never two seconds, -/
  nanos_lt : i.nanos < 2 * second
  /-- and one or more only at the end of a minute. -/
  leap : second ≤ i.nanos → i.seconds % 60 = 59

instance (i : Instant) : Decidable i.Admitted :=
  decidable_of_iff (i.nanos < 2 * second ∧ (second ≤ i.nanos → i.seconds % 60 = 59))
    ⟨fun h => ⟨h.1, h.2⟩, fun h => ⟨h.nanos_lt, h.leap⟩⟩

/-! ## Numbers in digits -/

section

variable {width n : Nat}

theorem toList_padded (width n : Nat) : (padded width n).toList =
    List.replicate (width - (Nat.toDigits 10 n).length) '0' ++ Nat.toDigits 10 n :=
  String.toList_ofList

theorem allDigits_padded (width n : Nat) : AllDigits (padded width n).toList := by
  rw [toList_padded]
  exact (Decimal.allDigits_zeros _).append (Decimal.allDigits_toDigits n)

theorem ofDigits_padded (width n : Nat) : ofDigits (padded width n).toList = n := by
  rw [toList_padded, Decimal.ofDigits_zeros_append, Decimal.ofDigits_toDigits]

theorem le_length_padded (width n : Nat) : width ≤ (padded width n).toList.length := by
  rw [toList_padded, List.length_append, List.length_replicate]
  omega

theorem length_padded (hwidth : 0 < width) (h : n < 10 ^ width) :
    (padded width n).toList.length = width := by
  have hlength := (Nat.length_toDigits_le_iff (b := 10) (by decide) hwidth).2 h
  rw [toList_padded, List.length_append, List.length_replicate]
  omega

/-- A number that is padded to some width is read by its width, -/
theorem takeDigits_padded (hwidth : 0 < width) (h : n < 10 ^ width) (rest : List Char) :
    takeDigits width ((padded width n).toList ++ rest) = some (n, rest) := by
  have hlength := length_padded hwidth h
  have hall : (padded width n).toList.all Char.isDigit = true :=
    List.all_eq_true.2 (allDigits_padded width n)
  rw [takeDigits, List.take_left' hlength, List.drop_left' hlength, hlength, ofDigits_padded, hall,
    if_pos ⟨rfl, rfl⟩]

/-- or by where its digits end. -/
theorem takeLong_padded (width n : Nat) {rest : List Char}
    (hrest : ∀ c ∈ rest.head?, c.isDigit = false) :
    takeLong width ((padded width n).toList ++ rest) = some (n, rest) := by
  have hdigits := allDigits_padded width n
  rw [takeLong, hdigits.takeWhile_append hrest, hdigits.dropWhile_append hrest, ofDigits_padded,
    if_pos (le_length_padded width n)]

end

/-! ## The parts of a time -/

/-- **A year is read back**: in four digits if it has no more and no sign, and otherwise by its sign
and as far as its digits go. -/
theorem takeYear_yearText (year : Int) {rest : List Char}
    (hrest : ∀ c ∈ rest.head?, c.isDigit = false) :
    takeYear ((yearText year).toList ++ rest) = some (year, rest) := by
  unfold yearText
  split
  · rename_i hyear
    have hshort : year.toNat < 10 ^ 4 := by omega
    have hcast : ((year.toNat : Nat) : Int) = year := Int.toNat_of_nonneg hyear.1
    have hdigits := allDigits_padded 4 year.toNat
    have hsome : (padded 4 year.toNat).toList ≠ [] := by
      have hlong := le_length_padded 4 year.toNat
      rintro hnil
      rw [hnil] at hlong
      exact absurd hlong (by decide)
    -- a digit is no sign, so the year is read by its width
    have hhead := @AllDigits.head_not_sign _ rest hdigits hsome
    have htake := takeDigits_padded (by decide) hshort rest
    unfold takeYear
    split
    · rename_i heq
      exact absurd rfl (hhead '+' (by rw [heq]; rfl)).1
    · rename_i heq
      exact absurd rfl (hhead '-' (by rw [heq]; rfl)).2
    · rw [htake, Option.map_some]
      dsimp only
      rw [hcast]
  · rename_i hyear
    have hlong := takeLong_padded 4 year.natAbs hrest
    rw [String.toList_append, List.append_assoc]
    split
    · rename_i hneg
      have hsign : "-".toList = ['-'] := rfl
      rw [hsign, List.cons_append, List.nil_append, takeYear, hlong, Option.map_some]
      dsimp only
      rw [Int.ofNat_natAbs_of_nonpos (by omega), Int.neg_neg]
    · rename_i hpos
      have hsign : "+".toList = ['+'] := rfl
      rw [hsign, List.cons_append, List.nil_append, takeYear, hlong, Option.map_some]
      dsimp only
      rw [Int.natAbs_of_nonneg (by omega)]

theorem takePart_point {width n : Nat} (hwidth : 1 ≤ width ∧ width ≤ 9) (h : n < 10 ^ width)
    {rest : List Char} (hrest : ∀ c ∈ rest.head?, c.isDigit = false) :
    takePart (("." ++ padded width n).toList ++ rest) = some (n * 10 ^ (9 - width), rest) := by
  have hdigits := allDigits_padded width n
  have hpoint : ".".toList = ['.'] := rfl
  rw [String.toList_append, hpoint, List.append_assoc, List.cons_append, List.nil_append, takePart,
    hdigits.takeWhile_append hrest, hdigits.dropWhile_append hrest, ofDigits_padded,
    length_padded hwidth.1 h, if_pos hwidth]

/-- **The part of a second is read back**, whichever number of digits it is written with. -/
theorem takePart_fractionText {nanos : Nat} (h : nanos < second) {rest : List Char}
    (hrest : ∀ c ∈ rest.head?, c.isDigit = false ∧ c ≠ '.') :
    takePart ((fractionText nanos).toList ++ rest) = some (nanos, rest) := by
  have hdigit : ∀ c ∈ rest.head?, c.isDigit = false := fun c hc => (hrest c hc).1
  have hsecond : second = 1000000000 := rfl
  unfold fractionText
  -- nothing, thousandths, millionths, or all nine digits; what is left out are zeros
  split
  · rename_i hzero
    rw [hzero]
    show takePart rest = _
    unfold takePart
    split
    · exact absurd rfl (hrest '.' rfl).2
    · rfl
  split
  · rename_i hmilli
    rw [takePart_point (by decide) (by omega) hdigit]
    congr 2
    omega
  split
  · rename_i hmicro
    rw [takePart_point (by decide) (by omega) hdigit]
    congr 2
    omega
  · rw [takePart_point (by decide) (by omega) hdigit]
    congr 2
    omega

/-- The text of a time is read part by part, and the parts are put together at the end. -/
theorem read?_parts {date : CalendarDay} {hour minute sec nanos : Nat}
    (hmonth : date.month < 10 ^ 2) (hday : date.day < 10 ^ 2) (hhour : hour < 10 ^ 2)
    (hminute : minute < 10 ^ 2) (hsec : sec < 10 ^ 2) (hnanos : nanos < second) :
    read? (yearText date.year ++ "-" ++ padded 2 date.month ++ "-" ++ padded 2 date.day ++ "T"
      ++ padded 2 hour ++ ":" ++ padded 2 minute ++ ":" ++ padded 2 sec ++ fractionText nanos
      ++ "Z") = ofParts? date hour minute sec nanos := by
  have hdash : ∀ rest : List Char, ∀ c ∈ ("-".toList ++ rest).head?, c.isDigit = false := by
    intro rest c hc
    obtain rfl := Option.some.inj hc
    rfl
  have hend : ∀ c ∈ "Z".toList.head?, c.isDigit = false ∧ c ≠ '.' := by
    intro c hc
    obtain rfl := Option.some.inj hc
    decide
  simp only [read?, String.toList_append, List.append_assoc, takeYear_yearText _ (hdash _),
    Option.bind_eq_bind, Option.bind_some, Text.after?_append, takeDigits_padded two_pos hmonth,
    takeDigits_padded two_pos hday, takeDigits_padded two_pos hhour,
    takeDigits_padded two_pos hminute, takeDigits_padded two_pos hsec,
    takePart_fractionText hnanos hend]
  exact if_pos rfl

/-- The parts of an instant are put together again. -/
theorem ofParts?_eq {i : Instant} (h : i.Admitted) {date : CalendarDay} {time leap : Nat}
    (hvalid : date.Valid) (hdate : date.number = i.seconds / 86400)
    (htime : i.seconds % 86400 = time)
    (hleap : i.nanos < second ∧ leap = 0 ∨ second ≤ i.nanos ∧ leap = 1) :
    ofParts? date (time / 3600) (time / 60 % 60) (time % 60 + leap) (i.nanos - leap * second) =
      some i := by
  obtain ⟨seconds, nanos⟩ := i
  have hrange : time < 86400 := by
    have hlt : seconds % 86400 < 86400 := Int.emod_lt_of_pos _ (by decide)
    dsimp only at htime
    omega
  rw [ofParts?, hdate, if_pos ⟨hvalid, by omega, by omega, by omega⟩]
  dsimp only at *
  -- without a leap second these are the quotients; with one, second 60 is taken back to second 59
  rcases hleap with ⟨-, rfl⟩ | ⟨hafter, rfl⟩
  · rw [if_neg (by omega)]
    simp only [Option.some.injEq, Instant.mk.injEq]
    omega
  · have hlast := h.leap hafter
    dsimp only at hlast
    rw [if_pos (by omega)]
    simp only [Option.some.injEq, Instant.mk.injEq]
    omega

/-- **The text of an instant denotes it.** -/
theorem read?_text {i : Instant} (h : i.Admitted) : read? i.text = some i := by
  have hnonneg : 0 ≤ i.seconds % 86400 := Int.emod_nonneg _ (by decide)
  have hlt : i.seconds % 86400 < 86400 := Int.emod_lt_of_pos _ (by decide)
  obtain ⟨time, htime⟩ := Int.eq_ofNat_of_zero_le hnonneg
  obtain ⟨hvalid, hdate⟩ := CalendarDay.ofDays_spec (i.seconds / 86400)
  have hday := hvalid.day.2.trans (CalendarDay.monthLength_le _ _)
  have hmonth := hvalid.month.2
  have hbound := h.nanos_lt
  -- a leap second is one more in the digits, and one less in the fraction
  obtain ⟨leap, hleap⟩ : ∃ leap, (if i.nanos < second then 0 else 1) = leap := ⟨_, rfl⟩
  have hcases : i.nanos < second ∧ leap = 0 ∨ second ≤ i.nanos ∧ leap = 1 := by
    split at hleap
    · rename_i hbefore
      exact Or.inl ⟨hbefore, hleap.symm⟩
    · rename_i hafter
      exact Or.inr ⟨Nat.le_of_not_lt hafter, hleap.symm⟩
  have hpart : i.nanos - leap * second < second := by
    rcases hcases with ⟨hbefore, rfl⟩ | ⟨hafter, rfl⟩
    · omega
    · omega
  rw [text, htime, Int.toNat_natCast, hleap,
    read?_parts (by omega) (by omega) (by omega) (by omega) (by omega) hpart]
  exact ofParts?_eq h hvalid hdate htime hcases

/-- The last leap second of 2016. -/
example : read? "2016-12-31T23:59:60.5Z" = some ⟨1483228799, 1500000000⟩ := by rfl

end CatalogEntities.Instant
