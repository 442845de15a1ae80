import CatalogEntities.Text.Quoted
import Mathlib.Data.List.Basic

/-!
# `Proofs/Text/Reader.lean` — reading back what was written

Three kinds of parts make up a line of a written file: fixed text, quoted literals and numbers. Each
has a reader that takes it off the text and leaves what follows, with its round trip.

Fixed text is taken from the front, by what it is. A literal is taken from the front as well and
ends where it is closed, so what follows may be anything. It can also be found from behind, where
what stands in front of it is not known (`append_quoted_inj`): an import is read in this way, since
the names between its braces may hold a quote. Numbers end at the first character that is no
numeral.
-/

set_option autoImplicit false

namespace CatalogEntities.Text

/-- What follows a given beginning. -/
def after? (beginning : String) (text : List Char) : Option (List Char) :=
  beginning.toList.isPrefixOf? text

/-- What stands in front of a given ending, which is taken off at the end of the text and not where
it comes first. -/
def before? (ending : String) (text : List Char) : Option (List Char) :=
  ending.toList.isSuffixOf? text

@[simp]
theorem after?_append (beginning : String) (rest : List Char) :
    after? beginning (beginning.toList ++ rest) = some rest :=
  List.isPrefixOf?_eq_some_iff_append_eq.2 rfl

@[simp]
theorem before?_append (ending : String) (rest : List Char) :
    before? ending (rest ++ ending.toList) = some rest :=
  List.isSuffixOf?_eq_some_iff_append_eq.2 rfl

/-- **A literal is read back**, whatever follows it. -/
theorem readQuoted_quoted {q : Char} (hq : q ≠ '\\') (value rest : List Char) :
    readQuoted q (quoted q value ++ rest) = some (value, rest) := by
  show (if q = q then readBody q (escape q value ++ [q] ++ rest) else none) = _
  rw [if_pos rfl, List.append_assoc]
  exact readBody_escape hq value rest

/-- The reader gets both values back from one literal. -/
theorem quoted_injective {q : Char} (hq : q ≠ '\\') : Function.Injective (quoted q) := by
  intro a b h
  have hread := readQuoted_quoted hq a []
  rw [h, readQuoted_quoted hq] at hread
  exact (Prod.mk.inj (Option.some.inj hread)).1.symm

theorem toList_singleQuoted (s : String) : (singleQuoted s).toList = quoted '\'' s.toList :=
  String.toList_ofList

theorem toList_doubleQuoted (s : String) : (doubleQuoted s).toList = quoted '"' s.toList :=
  String.toList_ofList

/-- In an escaped value every quote has a backslash in front of it. -/
theorem backslash_before_quote {q : Char} (hq : q ≠ '\\') {value before after : List Char}
    (h : escape q value = before ++ q :: after) : ∃ init, before = init ++ ['\\'] := by
  -- the text in front is cut along the escaped characters, one or two of it at a time
  induction value generalizing before with
  | nil => exact absurd h.symm (by simp [escape_nil])
  | cons c value ih =>
    rw [escape_cons] at h
    cases before with
    | nil =>
      split at h
      · exact absurd (List.cons.inj h).1 hq.symm
      · rename_i hc
        exact absurd (Or.inr (List.cons.inj h).1) hc
    | cons first before =>
      split at h
      · obtain ⟨rfl, hrest⟩ := List.cons.inj h
        cases before with
        | nil => exact ⟨[], rfl⟩
        | cons second before =>
          obtain ⟨init, rfl⟩ := ih (List.cons.inj hrest).2
          exact ⟨'\\' :: second :: init, rfl⟩
      · obtain ⟨init, rfl⟩ := ih (List.cons.inj h).2
        exact ⟨first :: init, rfl⟩

/-- Where a literal is opened, no other one can be, not even inside it. -/
theorem eq_nil_of_append_quoted {q c : Char} (hq : q ≠ '\\') (hc : c ≠ '\\')
    {sep more value other : List Char}
    (h : sep ++ c :: quoted q value = more ++ (sep ++ c :: quoted q other)) : more = [] := by
  have hcut : (sep ++ [c]) ++ q :: escape q value =
      (more ++ sep ++ [c]) ++ q :: escape q other := by
    have hclosed : (sep ++ [c]) ++ q :: escape q value ++ [q] =
        (more ++ sep ++ [c]) ++ q :: escape q other ++ [q] := by
      simpa [quoted] using h
    exact List.append_cancel_right hclosed
  rcases List.append_eq_append_iff.1 hcut with ⟨rest, hlong, htail⟩ | ⟨rest, hlong, -⟩
  · cases rest with
    | nil =>
      have hlength := congrArg List.length hlong
      simp only [List.length_append, List.length_nil] at hlength
      exact List.length_eq_zero_iff.1 (by omega)
    | cons first rest =>
      -- the other opening quote would stand inside the literal, behind `c` and not a backslash
      obtain ⟨init, rfl⟩ := backslash_before_quote hq (List.cons.inj htail).2
      have hlast := congrArg List.getLast? hlong
      simp only [List.getLast?_append, List.getLast?_cons] at hlast
      exact absurd (Option.some.inj hlast) hc
  · have hlength := congrArg List.length hlong
    simp only [List.length_append] at hlength
    exact List.length_eq_zero_iff.1 (by omega)

/-- **A literal at the end of a text is found from behind**, if what stands in front of it does not
end in a backslash. -/
theorem append_quoted_inj {q c : Char} (hq : q ≠ '\\') (hc : c ≠ '\\')
    {sep a b value other : List Char}
    (h : a ++ (sep ++ c :: quoted q value) = b ++ (sep ++ c :: quoted q other)) :
    a = b ∧ value = other := by
  have hab : a = b := by
    rcases List.append_eq_append_iff.1 h with ⟨more, rfl, hmore⟩ | ⟨more, rfl, hmore⟩
    · rw [eq_nil_of_append_quoted hq hc hmore, List.append_nil]
    · rw [eq_nil_of_append_quoted hq hc hmore, List.append_nil]
  subst hab
  have hliteral := (List.cons.inj (List.append_cancel_left (List.append_cancel_left h))).2
  exact ⟨rfl, quoted_injective hq hliteral⟩

/-! ## Numbers -/

/-- What a number is written with. -/
def isNumeral (c : Char) : Bool := c = '-' || c.isDigit

/-- The number that a text of numerals denotes. -/
def readInt : List Char → Int
  | '-' :: digits => -(Nat.ofDigitChars 10 digits 0 : Int)
  | digits => Nat.ofDigitChars 10 digits 0

theorem isNumeral_of_mem_repr {n : Nat} {c : Char} (h : c ∈ (Nat.repr n).toList) :
    c.isDigit = true := by
  rw [Nat.toList_repr] at h
  exact Nat.isDigit_of_mem_toDigits (by decide) (by decide) h

/-- A number without a sign is read from its digits. -/
theorem readInt_repr (n : Nat) : readInt (Nat.repr n).toList = n := by
  have hdigits : ∀ cs : List Char, (∀ c ∈ cs, c.isDigit = true) →
      readInt cs = Nat.ofDigitChars 10 cs 0 := by
    intro cs hcs
    cases cs with
    | nil => rfl
    | cons c rest =>
      have hc : c ≠ '-' := fun h => absurd (hcs c List.mem_cons_self) (by rw [h]; decide)
      unfold readInt
      split
      · rename_i h
        exact absurd (List.cons.inj h).1 hc
      · rfl
  rw [hdigits _ fun c hc => isNumeral_of_mem_repr hc, Nat.toList_repr,
    Nat.ofDigitChars_ten_toDigits]

/-- **A number is read back**, with its sign. -/
theorem readInt_toString (n : Int) : readInt (toString n).toList = n := by
  cases n with
  | ofNat m => exact readInt_repr m
  | negSucc m =>
    have hneg : toString (Int.negSucc m) = "-" ++ Nat.repr (m + 1) := rfl
    rw [hneg, String.toList_append]
    show -(Nat.ofDigitChars 10 (Nat.repr (m + 1)).toList 0 : Int) = Int.negSucc m
    rw [Nat.toList_repr, Nat.ofDigitChars_ten_toDigits]
    rfl

theorem isNumeral_of_mem_toString {n : Int} {c : Char} (h : c ∈ (toString n).toList) :
    isNumeral c = true := by
  have hdigit : ∀ m : Nat, c ∈ (Nat.repr m).toList → isNumeral c = true := by
    intro m hm
    simp [isNumeral, isNumeral_of_mem_repr hm]
  cases n with
  | ofNat m => exact hdigit m h
  | negSucc m =>
    have hneg : toString (Int.negSucc m) = "-" ++ Nat.repr (m + 1) := rfl
    rw [hneg, String.toList_append] at h
    rcases List.mem_append.1 h with h | h
    · rw [List.mem_singleton.1 h]
      decide
    · exact hdigit _ h

end CatalogEntities.Text
