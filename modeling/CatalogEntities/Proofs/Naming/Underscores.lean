import CatalogEntities.Proofs.Text.Casing

/-!
# `Proofs/Naming/Underscores.lean` — what underscores are to a class name

An underscore separates and does nothing else. The class name of two names with an underscore in
between is their class names put together (`className_append_underscore`), for all names, since the
cut into words does not look at what stands on its other side. A name of nothing has a class name of
nothing, so an underscore that separates a name from nothing is lost. That is an underscore at an
end, or beside another one.

`Widened` collects these: a name with any number of such underscores put in, in any order. And no
underscore is left over. It would have to stand in a word, which it cuts, or come out of a change of
case, which it does not, whatever the Unicode tables make of a character.

All names are meant, not those of ASCII alone. The law of joining makes no use of what capitalising
does, and what capitalising can bring about is asked of the tables once, in
`Proofs/Text/Casing.lean`.
-/

set_option autoImplicit false

namespace CatalogEntities.Naming

open Text

variable {name wider : String}

/-- **A name with more underscores**: at its ends, and beside those that it has. -/
inductive Widened (name : String) : String → Prop
  /-- None was put in. -/
  | same : Widened name name
  /-- One more in front, -/
  | front {wider : String} (h : Widened name wider) : Widened name ("_" ++ wider)
  /-- behind, -/
  | back {wider : String} (h : Widened name wider) : Widened name (wider ++ "_")
  /-- or beside an underscore that is there, be it of the name or put in before. -/
  | beside {a b : String} (h : Widened name (a ++ "_" ++ b)) : Widened name (a ++ "_" ++ "_" ++ b)

theorem className_empty : className "" = "" := rfl

/-- **Class names join where names have an underscore.** The cut into words is that of both sides,
one behind the other. -/
theorem className_append_underscore (a b : String) :
    className (a ++ "_" ++ b) = className a ++ className b := by
  rw [className, String.toList_append, String.toList_append, List.append_assoc]
  show String.ofList (classChars (a.toList ++ '_' :: b.toList)) = _
  rw [classChars_append_underscore, String.ofList_append]
  rfl

theorem className_underscore_append (name : String) : className ("_" ++ name) = className name := by
  have h := className_append_underscore "" name
  rwa [className_empty, String.empty_append, String.empty_append] at h

theorem className_append_last (name : String) : className (name ++ "_") = className name := by
  have h := className_append_underscore name ""
  rwa [className_empty, String.append_empty, String.append_empty] at h

/-- **More underscores make no difference.** Each of the places is the law of joining with an empty
name on one side. -/
theorem Widened.className_eq (h : Widened name wider) : className wider = className name := by
  induction h with
  | same => rfl
  | front _ ih => rw [className_underscore_append, ih]
  | back _ ih => rw [className_append_last, ih]
  | @beside a b _ ih =>
    calc className (a ++ "_" ++ "_" ++ b)
      _ = className (a ++ "_") ++ className b := className_append_underscore (a ++ "_") b
      _ = className a ++ className b := by rw [className_append_last]
      _ = className (a ++ "_" ++ b) := (className_append_underscore a b).symm
      _ = className name := ih

/-- A word has no underscore, and capitalising brings none about. -/
theorem underscore_not_mem_className (name : String) : '_' ∉ (className name).toList := by
  intro hmem
  rw [className, String.toList_ofList] at hmem
  obtain ⟨word, hword, hmem⟩ := List.mem_flatMap.1 hmem
  have hseparator : IsSeparator '_' := by decide
  exact not_mem_of_mem_splitOn hword (mem_of_mem_capitalise hseparator hmem)

/-- **What underscores are to the class of a name**: they take it apart, and are lost. -/
structure JoinsAtUnderscores (name : String) : Prop where
  /-- Put in front of another name, with an underscore in between. -/
  joined : ∀ other, className (name ++ "_" ++ other) = className name ++ className other
  widened : ∀ wider, Widened name wider → className wider = className name
  without : '_' ∉ (className name).toList

/-- **Class names join where names have an underscore**, and have none themselves. -/
theorem joinsAtUnderscores (name : String) : JoinsAtUnderscores name where
  joined := className_append_underscore name
  widened _ h := h.className_eq
  without := underscore_not_mem_className name

/-- Underscores at both ends and two more in the middle, with a letter whose upper case is two
letters and one whose lower case is a letter and a dot of its own. -/
theorem joinsAtUnderscores_sharpS :
    Widened "ßa_xİ" "__ßa___xİ_" ∧ className "__ßa___xİ_" = className "ßa_xİ" ∧
      className "ßa_xİ" = "SSa" ++ "Xi\u0307" := by
  have hwider : Widened "ßa_xİ" "__ßa___xİ_" :=
    .front (.front (.back (.beside (a := "ßa_") (.beside (a := "ßa") (b := "xİ") .same))))
  exact ⟨hwider, (joinsAtUnderscores "ßa_xİ").widened _ hwider, by decide⟩

end CatalogEntities.Naming
