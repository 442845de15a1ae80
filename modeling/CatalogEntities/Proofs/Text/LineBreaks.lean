import CatalogEntities.Proofs.Text.Casing
import CatalogEntities.Proofs.Text.Reader
import Mathlib.Algebra.GroupWithZero.Nat

/-!
# `Proofs/Text/LineBreaks.lean` — how many line breaks a text has

Line feeds and carriage returns, counted. Writing a text in quotes, as a key or as a class name
neither adds line breaks nor takes any away, so those of a written file are those of its frame and
those of the texts in it, each as often as it is written.

The lemmas on ways of writing are tagged for `simp`, so that the line breaks of a line are found by
taking it apart (`Proofs/Entity/LineBreaks.lean`). For a change of case the count has to be taken
character by character: a letter may become several, and none of them is a line break
(`Proofs/Text/Casing.lean`).
-/

set_option autoImplicit false

namespace CatalogEntities

namespace Text

/-- A line feed or a carriage return. A reader of the file ends a line at either of them. -/
def isLineBreak (c : Char) : Bool := c = '\n' || c = '\r'

/-- **The number of line breaks of a text.** -/
def lineBreaks (s : String) : Nat := s.toList.countP isLineBreak

@[simp]
theorem lineBreaks_append (a b : String) : lineBreaks (a ++ b) = lineBreaks a + lineBreaks b := by
  rw [lineBreaks, String.toList_append, List.countP_append]
  rfl

/-- Pieces of text that are each written with the same number of line breaks more. -/
theorem lineBreaks_join_map {write : String → String} {more : Nat}
    (hwrite : ∀ s, lineBreaks (write s) = lineBreaks s + more) (ss : List String) :
    lineBreaks (String.join (ss.map write)) = (ss.map lineBreaks).sum + more * ss.length := by
  induction ss with
  | nil => rfl
  | cons s ss ih =>
    rw [List.map_cons, String.join_cons, lineBreaks_append, ih, hwrite, List.map_cons,
      List.sum_cons, List.length_cons, Nat.mul_succ]
    omega

/-- Pieces with something in between, which is there once less than there are pieces. -/
theorem countP_intercalate {α : Type} (p : α → Bool) (sep : List α) (pieces : List (List α)) :
    (sep.intercalate pieces).countP p =
      (pieces.map (·.countP p)).sum + (pieces.length - 1) * sep.countP p := by
  cases pieces with
  | nil => simp [List.intercalate]
  | cons first rest =>
    rw [intercalate_cons_eq, List.countP_append, List.map_cons, List.sum_cons, List.length_cons,
      Nat.add_sub_cancel, Nat.add_assoc]
    apply congrArg (first.countP p + ·)
    induction rest with
    | nil => simp
    | cons second rest ih =>
      rw [List.flatMap_cons, List.countP_append, List.countP_append, ih, List.map_cons,
        List.sum_cons, List.length_cons, Nat.succ_mul]
      omega

theorem lineBreaks_intercalate (sep : String) (ss : List String) :
    lineBreaks (sep.intercalate ss) =
      (ss.map lineBreaks).sum + (ss.length - 1) * lineBreaks sep := by
  rw [lineBreaks, String.toList_intercalate, countP_intercalate, List.map_map, List.length_map]
  rfl

/-! ## Literals and numbers -/

/-- Escaping puts backslashes in, which are no line breaks. -/
theorem countP_escape {q : Char} (hq : isLineBreak q = false) (value : List Char) :
    (escape q value).countP isLineBreak = value.countP isLineBreak := by
  induction value with
  | nil => rfl
  | cons c value ih =>
    rw [escape_cons, List.countP_append, ih, List.countP_cons]
    split
    · rename_i hc
      have hnone : isLineBreak c = false := by
        rcases hc with rfl | rfl
        · decide
        · exact hq
      simp [hnone, (by decide : isLineBreak '\\' = false)]
    · rw [List.countP_cons, List.countP_nil, Nat.zero_add, Nat.add_comm]

theorem countP_quoted {q : Char} (hq : isLineBreak q = false) (value : List Char) :
    (quoted q value).countP isLineBreak = value.countP isLineBreak := by
  rw [quoted, List.countP_append, List.countP_cons, countP_escape hq]
  simp [hq]

@[simp]
theorem lineBreaks_singleQuoted (s : String) : lineBreaks (singleQuoted s) = lineBreaks s := by
  rw [lineBreaks, toList_singleQuoted, countP_quoted (by decide)]
  rfl

@[simp]
theorem lineBreaks_doubleQuoted (s : String) : lineBreaks (doubleQuoted s) = lineBreaks s := by
  rw [lineBreaks, toList_doubleQuoted, countP_quoted (by decide)]
  rfl

@[simp]
theorem lineBreaks_toString_int (n : Int) : lineBreaks (toString n) = 0 := by
  apply List.countP_eq_zero.2
  intro c hc hbreak
  have hnumeral := isNumeral_of_mem_toString hc
  simp only [isLineBreak, Bool.or_eq_true, decide_eq_true_eq] at hbreak
  rcases hbreak with rfl | rfl
  · exact absurd hnumeral (by decide)
  · exact absurd hnumeral (by decide)

/-! ## Names -/

theorem isSeparator_of_isLineBreak {c : Char} (h : isLineBreak c = true) : IsSeparator c := by
  simp only [isLineBreak, Bool.or_eq_true, decide_eq_true_eq] at h
  rcases h with rfl | rfl
  · decide
  · decide

/-- A change of case that makes no separators keeps line breaks, if it leaves them alone. -/
theorem countP_case {change : Char → List Char}
    (hmakes : ∀ {c d}, IsSeparator d → d ∈ change c → d = c)
    (hleaves : ∀ {c}, isLineBreak c = true → change c = [c]) (c : Char) :
    (change c).countP isLineBreak = if isLineBreak c then 1 else 0 := by
  split
  · rename_i hbreak
    rw [hleaves hbreak, List.countP_singleton, if_pos hbreak]
  · rename_i hnone
    apply List.countP_eq_zero.2
    intro d hd hbreak
    rw [hmakes (isSeparator_of_isLineBreak hbreak) hd] at hbreak
    exact hnone hbreak

theorem countP_upper (c : Char) :
    (upper c).countP isLineBreak = if isLineBreak c then 1 else 0 := by
  apply countP_case (fun hd h => hd.eq_of_mem_upper h)
  intro c hbreak
  simp only [isLineBreak, Bool.or_eq_true, decide_eq_true_eq] at hbreak
  rcases hbreak with rfl | rfl
  · decide
  · decide

theorem countP_lower (c : Char) :
    (lower c).countP isLineBreak = if isLineBreak c then 1 else 0 := by
  apply countP_case (fun hd h => hd.eq_of_mem_lower h)
  intro c hbreak
  simp only [isLineBreak, Bool.or_eq_true, decide_eq_true_eq] at hbreak
  rcases hbreak with rfl | rfl
  · decide
  · decide

end Text

namespace Naming

open Text

/-- Capitalising keeps the number of line breaks, though not that of characters. -/
theorem countP_capitalise (word : List Char) :
    (capitalise word).countP isLineBreak = word.countP isLineBreak := by
  cases word with
  | nil => rfl
  | cons c rest =>
    have hrest : (rest.flatMap lower).countP isLineBreak = rest.countP isLineBreak := by
      induction rest with
      | nil => rfl
      | cons d rest ih =>
        rw [List.flatMap_cons, List.countP_append, ih, countP_lower, List.countP_cons,
          Nat.add_comm]
    rw [capitalise, List.countP_append, hrest, countP_upper, List.countP_cons, Nat.add_comm]

/-- The underscores that a class name loses are no line breaks. -/
@[simp]
theorem lineBreaks_className (table : String) :
    lineBreaks (className table) = lineBreaks table := by
  have hwords : table.toList.countP isLineBreak =
      ((table.toList.splitOn '_').map (·.countP isLineBreak)).sum := by
    have hjoined := countP_intercalate isLineBreak ['_'] (table.toList.splitOn '_')
    rw [List.intercalate_splitOn, (by decide : ['_'].countP isLineBreak = 0), Nat.mul_zero,
      Nat.add_zero] at hjoined
    exact hjoined
  rw [lineBreaks, className, String.toList_ofList, lineBreaks, hwords, classChars,
    List.countP_flatMap]
  apply congrArg List.sum
  apply List.map_congr_left
  intro word _
  exact countP_capitalise word

@[simp]
theorem lineBreaks_propertyKey (name : String) :
    lineBreaks (propertyKey name) = lineBreaks name := by
  unfold propertyKey
  split
  · rfl
  · exact lineBreaks_singleQuoted name

end Naming

end CatalogEntities
