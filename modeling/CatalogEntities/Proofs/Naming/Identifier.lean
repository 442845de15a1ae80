import CatalogEntities.Entity
import CatalogEntities.Proofs.Text.Casing

/-!
# `Proofs/Naming/Identifier.lean` — when a class name is an identifier

A class name is not checked: it goes into the file as it comes out of the casing of words. That is
no matter for a property, which is quoted if it has to be, but a class cannot be quoted.

Casing leaves the kind of an ASCII character alone, so the class name holds what the table's name
holds except for the underscores (`all_classChars`). Its first character is that of the first word,
wherever that stands (`head?_classChars`): leading underscores may bring a digit to the front, and a
name of underscores leaves nothing.

The condition is on ASCII names, since beyond ASCII the casing of a letter may be several characters
of other kinds. There it is an equivalence in the words of the table's name (`IsNameable`), so that
whoever names a table can tell what becomes of it without working out the class name. It is stated
for the three places where a class name stands, which are one function but three readers.
-/

set_option autoImplicit false

namespace CatalogEntities.Naming

open Text

/-- **A name that makes an identifier.** -/
structure IsNameable (table : String) : Prop where
  /-- The first character but for underscores is there, and it is a letter or a dollar sign. -/
  first : ∃ c, table.toList.find? (· ≠ '_') = some c ∧ (c.isAlpha = true ∨ c = '$')
  /-- No other characters stand anywhere. -/
  every : ∀ c ∈ table.toList, c.isAlphanum = true ∨ c = '_' ∨ c = '$'

/-! ## Case and kind -/

section

variable {c : Char} (hc : c.toNat < 0x80)

include hc

/-- Changing the case of an ASCII character does not make it a different kind of character. -/
theorem continuesIdentifier_toUpper : continuesIdentifier c.toUpper = continuesIdentifier c :=
  forall_ascii (P := fun c => continuesIdentifier c.toUpper = continuesIdentifier c) (by decide) hc

theorem continuesIdentifier_toLower : continuesIdentifier c.toLower = continuesIdentifier c :=
  forall_ascii (P := fun c => continuesIdentifier c.toLower = continuesIdentifier c) (by decide) hc

/-- An underscore also begins an identifier, but no word. -/
theorem startsIdentifier_toUpper (hword : c ≠ '_') :
    startsIdentifier c.toUpper = true ↔ c.isAlpha = true ∨ c = '$' :=
  forall_ascii (P := fun c => c ≠ '_' →
    (startsIdentifier c.toUpper = true ↔ c.isAlpha = true ∨ c = '$')) (by decide) hc hword

end

theorem continuesIdentifier_of_starts {c : Char} (h : startsIdentifier c = true) :
    continuesIdentifier c = true := by
  simp only [startsIdentifier, continuesIdentifier, Char.isAlphanum, Bool.or_eq_true] at h ⊢
  rcases h with (h | h) | h
  · exact Or.inl (Or.inl (Or.inl h))
  · exact Or.inl (Or.inr h)
  · exact Or.inr h

/-- An identifier by its first character and by all of them. That the first may also continue one
saves looking at the rest apart. -/
theorem isIdentifier_iff {name : List Char} :
    isIdentifier name = true ↔
      (∃ c, name.head? = some c ∧ startsIdentifier c = true) ∧
        name.all continuesIdentifier = true := by
  cases name with
  | nil => simp [isIdentifier]
  | cons c rest =>
    rw [isIdentifier, Bool.and_eq_true, List.all_cons, Bool.and_eq_true, List.head?_cons]
    constructor
    · rintro ⟨hstart, hrest⟩
      exact ⟨⟨c, rfl, hstart⟩, continuesIdentifier_of_starts hstart, hrest⟩
    · rintro ⟨⟨d, hd, hstart⟩, -, hrest⟩
      rw [Option.some.inj hd]
      exact ⟨hstart, hrest⟩

/-! ## What a class name is made of -/

/-- Capitalising a word keeps the kind of each of its characters. -/
theorem all_capitalise {word : List Char} (h : ∀ c ∈ word, c.toNat < 0x80) :
    (capitalise word).all continuesIdentifier = word.all continuesIdentifier := by
  cases word with
  | nil => rfl
  | cons c rest =>
    have hrest := fun d hd => h d (List.mem_cons_of_mem c hd)
    have hlower : ∀ d ∈ rest, continuesIdentifier d.toLower = continuesIdentifier d :=
      fun d hd => continuesIdentifier_toLower (hrest d hd)
    rw [capitalise, upper_of_ascii (h c List.mem_cons_self), flatMap_lower_ascii hrest,
      List.singleton_append, List.all_cons, List.all_cons, List.all_map,
      continuesIdentifier_toUpper (h c List.mem_cons_self)]
    congr 1
    rw [Bool.eq_iff_iff, List.all_eq_true, List.all_eq_true]
    constructor
    · intro hall d hd
      rw [← hlower d hd]
      exact hall d hd
    · intro hall d hd
      exact (hlower d hd).trans (hall d hd)

/-- **Casing keeps the kind of every character**, and underscores are no matter. -/
theorem all_classChars {name : List Char} (h : ∀ c ∈ name, c.toNat < 0x80) :
    (classChars name).all continuesIdentifier = name.all continuesIdentifier := by
  rw [classChars, List.all_flatMap, ← all_splitOn (x := '_') (by decide) name,
    Bool.eq_iff_iff, List.all_eq_true, List.all_eq_true]
  have hpiece : ∀ word ∈ name.splitOn '_',
      (capitalise word).all continuesIdentifier = word.all continuesIdentifier :=
    fun word hword => all_capitalise fun c hc => h c (mem_of_mem_splitOn hword hc)
  constructor
  · intro hall word hword
    rw [← hpiece word hword]
    exact hall word hword
  · intro hall word hword
    rw [hpiece word hword]
    exact hall word hword

/-- **A class name begins with the first character that is no underscore**, in upper case. -/
theorem head?_classChars {name : List Char} (h : ∀ c ∈ name, c.toNat < 0x80) :
    (classChars name).head? = (name.find? (· ≠ '_')).map Char.toUpper := by
  induction name with
  | nil => rfl
  | cons c rest ih =>
    -- an underscore in front is lost, and any other character begins the first word
    by_cases hc : c = '_'
    · have hrest := ih fun d hd => h d (List.mem_cons_of_mem c hd)
      rw [hc, ← List.nil_append ('_' :: rest), classChars_append_underscore, classChars_nil,
        List.nil_append, List.nil_append, hrest, List.find?_cons_of_neg (by decide)]
    · rw [classChars, List.splitOn_cons_eq_if_modifyHead, if_neg (by simpa using hc),
        List.find?_cons_of_pos (by simpa using hc)]
      cases hsplit : rest.splitOn '_' with
      | nil => exact absurd hsplit (List.splitOn_ne_nil '_' rest)
      | cons first others =>
        rw [List.modifyHead_cons, List.flatMap_cons, capitalise,
          upper_of_ascii (h c List.mem_cons_self)]
        rfl

section

variable {table : String} (h : ∀ c ∈ table.toList, c.toNat < 0x80)

include h

/-- **When a class name is an identifier**, by its first character and by all of them. -/
theorem isIdentifier_className_iff :
    isIdentifier (className table).toList = true ↔ IsNameable table := by
  rw [className, String.toList_ofList, isIdentifier_iff, head?_classChars h, all_classChars h,
    List.all_eq_true]
  have hkind : ∀ c : Char, continuesIdentifier c = true ↔
      c.isAlphanum = true ∨ c = '_' ∨ c = '$' := by
    intro c
    simp only [continuesIdentifier, Bool.or_eq_true, decide_eq_true_eq, or_assoc]
  have hfirst : ∀ c, table.toList.find? (· ≠ '_') = some c →
      (startsIdentifier c.toUpper = true ↔ c.isAlpha = true ∨ c = '$') := by
    intro c hfind
    have hword : c ≠ '_' := by simpa using List.find?_some hfind
    exact startsIdentifier_toUpper (h c (List.mem_of_find?_eq_some hfind)) hword
  -- both sides ask for a first character of a kind and for all of another
  constructor
  · rintro ⟨⟨u, hu, hstart⟩, hall⟩
    obtain ⟨c, hfind, rfl⟩ := Option.map_eq_some_iff.1 hu
    exact ⟨⟨c, hfind, (hfirst c hfind).1 hstart⟩, fun d hd => (hkind d).1 (hall d hd)⟩
  · rintro ⟨⟨c, hfind, hstart⟩, hall⟩
    refine ⟨⟨c.toUpper, ?_, (hfirst c hfind).2 hstart⟩, fun d hd => (hkind d).2 (hall d hd)⟩
    rw [hfind, Option.map_some]

end

/-- **Where the class name of a table stands**, it is an identifier exactly if the table's name
makes one. -/
structure NamesClass (table : String) : Prop where
  /-- As it is computed, -/
  class_ : isIdentifier (className table).toList = true ↔ IsNameable table
  /-- and as the class that the table's own file declares. -/
  declared : ∀ (settings : GeneratorSettings) (t : Table), t.name = table →
    (isIdentifier (Entity.ofTable settings t).className.toList = true ↔ IsNameable table)
  /-- The type of a relation, which is also what an import binds. -/
  target : ∀ (suffix : String) (fk : ForeignKey), fk.refTable = table →
    (isIdentifier (Relation.ofForeignKey suffix fk).target.toList = true ↔ IsNameable table)

/-- **When a class name is an identifier**: the table's name is made of letters, digits, underscores
and dollar signs, and its first word does not begin with a digit. -/
theorem namesClass {table : String} (h : ∀ c ∈ table.toList, c.toNat < 0x80) :
    NamesClass table where
  class_ := isIdentifier_className_iff h
  declared _ _ hname := hname ▸ isIdentifier_className_iff (hname ▸ h)
  target _ _ hname := hname ▸ isIdentifier_className_iff (hname ▸ h)

/-- The underscores in front are no part of either class name. Behind them one begins with a dollar
sign, and the other with a digit. -/
theorem namesClass_secondFactor :
    ((∀ c ∈ "__$audit_2fa".toList, c.toNat < 0x80) ∧ ∀ c ∈ "_2fa_keys".toList, c.toNat < 0x80) ∧
      (NamesClass "__$audit_2fa" ∧ IsNameable "__$audit_2fa") ∧
      NamesClass "_2fa_keys" ∧ ¬ IsNameable "_2fa_keys" := by
  have haudit : ∀ c ∈ "__$audit_2fa".toList, c.toNat < 0x80 := by simp
  have hkeys : ∀ c ∈ "_2fa_keys".toList, c.toNat < 0x80 := by simp
  refine ⟨⟨haudit, hkeys⟩, ⟨namesClass haudit, ?_⟩, namesClass hkeys, ?_⟩
  · exact (namesClass haudit).class_.1 (by decide)
  · exact fun h => absurd ((namesClass hkeys).class_.2 h) (by decide)

end CatalogEntities.Naming
