import CatalogEntities.Text.Character
import Mathlib.Data.List.TakeWhile

/-!
# `Proofs/Text/Blank.lean` — what trimming takes away

Trimming takes white space from the ends of a text, and stops at the first character that is none.

`exists_blank_trim` is the one direction, what was taken away is white space, and `trim_append` the
other, all white space around a text is taken away. What counts as white space is Unicode's and is
in no lemma here: only that the same question is asked at both ends. Defaults are trimmed before
they are read as numbers (`is_number`), and a line of a file of variables is before it is taken
apart.
-/

set_option autoImplicit false

namespace CatalogEntities.Text

/-- White space and nothing else. There may be none. -/
def AllBlank (cs : List Char) : Prop := ∀ c ∈ cs, isBlank c = true

theorem exists_blank_trimStart (cs : List Char) :
    ∃ before, AllBlank before ∧ cs = before ++ trimStart cs :=
  ⟨cs.takeWhile isBlank, List.all_eq_true.1 List.all_takeWhile,
    List.takeWhile_append_dropWhile.symm⟩

theorem exists_blank_trimEnd (cs : List Char) :
    ∃ after, AllBlank after ∧ cs = trimEnd cs ++ after := by
  obtain ⟨before, hbefore, hcs⟩ := exists_blank_trimStart cs.reverse
  refine ⟨before.reverse, fun c hc => hbefore c (List.mem_reverse.1 hc), ?_⟩
  have hreverse := congrArg List.reverse hcs
  rw [List.reverse_reverse, List.reverse_append] at hreverse
  exact hreverse

/-- Trimming takes white space only. -/
theorem exists_blank_trim (cs : List Char) :
    ∃ before after, AllBlank before ∧ AllBlank after ∧ cs = before ++ (trim cs ++ after) := by
  obtain ⟨before, hbefore, hcs⟩ := exists_blank_trimStart cs
  obtain ⟨after, hafter, hstart⟩ := exists_blank_trimEnd (trimStart cs)
  exact ⟨before, after, hbefore, hafter, hcs.trans (congrArg (before ++ ·) hstart)⟩

/-- What begins with something else is left as it is, from the front, -/
theorem trimStart_append {before body : List Char} (hbefore : AllBlank before)
    (hbody : ∀ c ∈ body.head?, isBlank c = false) : trimStart (before ++ body) = body := by
  rw [trimStart, List.dropWhile_append_of_pos hbefore]
  cases body with
  | nil => rfl
  | cons c rest => exact List.dropWhile_cons_of_neg (Bool.eq_false_iff.1 (hbody c rfl))

/-- and from behind what ends with something else. -/
theorem trimEnd_append {body after : List Char} (hafter : AllBlank after)
    (hbody : ∀ c ∈ body.getLast?, isBlank c = false) : trimEnd (body ++ after) = body := by
  have hreverse : trimStart (after.reverse ++ body.reverse) = body.reverse := by
    apply trimStart_append
    · exact fun c hc => hafter c (List.mem_reverse.1 hc)
    · rwa [List.head?_reverse]
  rw [trimStart] at hreverse
  rw [trimEnd, List.reverse_append, hreverse, List.reverse_reverse]

/-- **Trimming leaves what has no white space in it**, and all of it. -/
theorem trim_append {before body after : List Char} (hbefore : AllBlank before)
    (hafter : AllBlank after) (hbody : ∀ c ∈ body, isBlank c = false) :
    trim (before ++ (body ++ after)) = body := by
  cases body with
  | nil =>
    -- it is all white space, and taken from the front
    have hall : AllBlank (before ++ ([] ++ after)) := by
      intro c hc
      rcases List.mem_append.1 hc with hc | hc
      · exact hbefore c hc
      · exact hafter c hc
    have hstart : trimStart (before ++ ([] ++ after)) = [] := List.dropWhile_eq_nil_iff.2 hall
    rw [trim, hstart]
    rfl
  | cons c rest =>
    have hstart : trimStart (before ++ (c :: rest ++ after)) = c :: rest ++ after := by
      apply trimStart_append hbefore
      intro d hd
      obtain rfl := Option.some.inj hd
      exact hbody c List.mem_cons_self
    rw [trim, hstart]
    exact trimEnd_append hafter fun d hd => hbody d (List.mem_of_mem_getLast? hd)

end CatalogEntities.Text
