import CatalogEntities.Proofs.Entity.Fields

/-!
# `Proofs/Entity/PropertyKeys.lean` — when two fields have the same key

The property of a relation is named as its column without the reference suffix, so it may be named
as another field is. Nothing is done about that, and `Entity.keysClash` says that it is all: fields
of different columns have the same key only where the suffix has been taken off one of them and the
rest is what the other is called.

Writing a name as a key loses nothing (`Naming.propertyKey_injective`), so keys clash where names
do. And a name is shortened in one way only, so two names of which both or none are shortened are as
different as their columns.

Fields are compared by their places in the entity, since two fields may be equal as values only if
they are the same field: columns have different names, so no two fields have one column
(`Entity.nodup_map_column_fields`). It is the only thing that is asked of the table.
-/

set_option autoImplicit false

namespace CatalogEntities

open CatalogEntities.Text

/-! ## Keys and names -/

namespace Text

theorem singleQuoted_injective : Function.Injective singleQuoted := by
  intro a b h
  have hchars := congrArg String.toList h
  rw [toList_singleQuoted, toList_singleQuoted] at hchars
  exact String.toList_injective (quoted_injective (by decide) hchars)

end Text

namespace Naming

/-- **No bare key is a quoted one**: an identifier does not begin with a quote. -/
theorem ne_singleQuoted_of_isIdentifier {name : String} (h : isIdentifier name.toList = true)
    (value : String) : name ≠ singleQuoted value := by
  rintro rfl
  rw [toList_singleQuoted] at h
  exact Bool.noConfusion h

/-- **Different names are different keys**: bare ones as they stand, quoted ones since quoting can
be undone, and one of each kind since no bare key begins with a quote. -/
theorem propertyKey_injective : Function.Injective propertyKey := by
  intro a b h
  unfold propertyKey at h
  split at h
  · rename_i ha
    split at h
    · exact h
    · exact absurd h (ne_singleQuoted_of_isIdentifier ha b)
  · split at h
    · rename_i hb
      exact absurd h.symm (ne_singleQuoted_of_isIdentifier hb a)
    · exact singleQuoted_injective h

end Naming

/-! ## Shortened names -/

/-- **A name is shortened or it is not**: the suffix was taken off and something is left, or the
name is that of the column. -/
theorem Relation.propertyName_cases (suffix column : String) :
    propertyName suffix column = column ∨
      (suffix ≠ "" ∧ propertyName suffix column ≠ "" ∧
        column = propertyName suffix column ++ suffix) := by
  unfold propertyName
  cases hstem : withoutEnding? suffix column with
  | none => exact Or.inl rfl
  | some stem =>
    dsimp only
    split
    · exact Or.inl rfl
    · rename_i hsome
      rw [not_or] at hsome
      exact Or.inr ⟨hsome.1, hsome.2, eq_append_of_withoutEnding? hstem⟩

/-- The suffix is taken off whatever it stands behind. -/
theorem Relation.propertyName_append {stem suffix : String} (hstem : stem ≠ "")
    (hsuffix : suffix ≠ "") : propertyName suffix (stem ++ suffix) = stem := by
  have hfound : withoutEnding? suffix (stem ++ suffix) = some stem := by
    have hending : suffix.toList.isSuffixOf? (stem ++ suffix).toList = some stem.toList := by
      rw [String.toList_append]
      exact List.isSuffixOf?_eq_some_iff_append_eq.2 rfl
    rw [withoutEnding?, hending, Option.map_some, String.ofList_toList]
  have hsome : ¬ (suffix = "" ∨ stem = "") := by
    rw [not_or]
    exact ⟨hsuffix, hstem⟩
  unfold propertyName
  rw [hfound]
  exact if_neg hsome

namespace Field

/-- The name of the property that a field declares. Only a relation has one of its own. -/
def property : Field → String
  | key column .. => column
  | choice column .. => column
  | value column .. => column
  | relation r => r.property

/-- **The key of a field**, as it is written. -/
def keyText (f : Field) : String := Naming.propertyKey f.property

/-- The key stands at the beginning of the last line of the field. -/
theorem exists_lines_eq (f : Field) :
    ∃ decorators script, f.lines = decorators ++ [f.keyText ++ ": " ++ script ++ ";"] := by
  cases f with
  | key column strategy script => exact ⟨[_], _, rfl⟩
  | choice column labels nullable => exact ⟨[_], _, rfl⟩
  | value column type nullable maxLength default => exact ⟨[_], _, rfl⟩
  | relation r => exact ⟨[_, _], _, rfl⟩

/-- **A relation is shortened to what another field is called.** The other field is that of a
column, or a relation that bears its column's name. Columns are what is compared, so that the
definition can be checked against a table without naming its properties first. -/
def ShortenedTo (suffix : String) (f g : Field) : Prop :=
  ∃ r stem, stem ≠ "" ∧ suffix ≠ "" ∧ f = .relation r ∧ r.column = stem ++ suffix ∧
    g.column = stem ∧ ∀ other, g = .relation other → other.property = stem

theorem ShortenedTo.property_right {suffix : String} {f g : Field}
    (h : ShortenedTo suffix f g) : g.property = g.column := by
  obtain ⟨r, stem, -, -, -, -, hcolumn, hother⟩ := h
  cases g with
  | key column strategy script => rfl
  | choice column labels nullable => rfl
  | value column type nullable maxLength default => rfl
  | relation other =>
    rw [hcolumn]
    exact hother other rfl

end Field

/-! ## The fields of an entity -/

namespace Entity

variable {settings : GeneratorSettings} {t : Table} {f g : Field}

/-- A relation is named by the suffix and its column. -/
theorem property_of_relation_mem {r : Relation}
    (h : Field.relation r ∈ (ofTable settings t).fields) :
    r.property = Relation.propertyName settings.referenceSuffix r.column := by
  rw [fields_ofTable, List.mem_append, List.mem_append] at h
  rcases h with (h | h) | h
  · obtain ⟨c, -, hc⟩ := List.mem_map.1 h
    exact Field.noConfusion hc
  · obtain ⟨c, -, hc⟩ := List.mem_map.1 h
    unfold Table.otherField at hc
    cases hlabels : t.enumLabels.get? c.name with
    | none =>
      rw [hlabels] at hc
      exact Field.noConfusion hc
    | some labels =>
      rw [hlabels] at hc
      exact Field.noConfusion hc
  · obtain ⟨other, hother, heq⟩ := List.mem_map.1 h
    obtain rfl := Field.relation.inj heq
    obtain ⟨fk, -, rfl⟩ := List.mem_map.1 hother
    rfl

/-- **A field is named as its column, or it is a relation and shortened.** -/
theorem property_cases (h : f ∈ (ofTable settings t).fields) :
    f.property = f.column ∨
      ((∃ r, f = .relation r) ∧ settings.referenceSuffix ≠ "" ∧ f.property ≠ "" ∧
        f.column = f.property ++ settings.referenceSuffix) := by
  cases f with
  | key column strategy script => exact Or.inl rfl
  | choice column labels nullable => exact Or.inl rfl
  | value column type nullable maxLength default => exact Or.inl rfl
  | relation r =>
    have hname := property_of_relation_mem h
    rcases Relation.propertyName_cases settings.referenceSuffix r.column with hsame | hshort
    · left
      show r.property = r.column
      rw [hname, hsame]
    · right
      rw [← hname] at hshort
      exact ⟨⟨r, rfl⟩, hshort⟩

/-- **Fields of different columns.** -/
theorem nodup_map_column_fields (settings : GeneratorSettings)
    (h : (t.columns.map Column.name).Nodup) :
    ((ofTable settings t).fields.map Field.column).Nodup := by
  rw [List.nodup_iff_count_le_one]
  intro name
  rw [count_column_fields]
  split
  · exact Nat.le_refl 1
  · exact List.nodup_iff_count_le_one.1 h name

/-- Fields in different places have different columns. -/
theorem column_ne_of_ne (h : (t.columns.map Column.name).Nodup) {i j : Nat} (hij : i ≠ j)
    (hi : (ofTable settings t).fields[i]? = some f)
    (hj : (ofTable settings t).fields[j]? = some g) : f.column ≠ g.column := by
  intro heq
  have hleft : ((ofTable settings t).fields.map Field.column)[i]? = some f.column := by
    rw [List.getElem?_map, hi, Option.map_some]
  have hright : ((ofTable settings t).fields.map Field.column)[j]? = some f.column := by
    rw [List.getElem?_map, hj, Option.map_some, heq]
  have hlt := (List.getElem?_eq_some_iff.1 hleft).1
  have hnodup := nodup_map_column_fields settings h
  exact hij ((List.getElem?_inj hlt hnodup).1 (hleft.trans hright.symm))

/-- If one field is named as its column, and the other is named alike, then the other is shortened.
-/
theorem shortenedTo_of_property_eq (hf : f ∈ (ofTable settings t).fields)
    (hg : g.property = g.column) (hne : f.column ≠ g.column) (h : f.property = g.property) :
    Field.ShortenedTo settings.referenceSuffix f g := by
  rcases property_cases hf with hsame | ⟨⟨r, rfl⟩, hsuffix, hstem, hcolumn⟩
  · exact absurd (hsame.symm.trans (h.trans hg)) hne
  · refine ⟨r, g.column, ?_, hsuffix, rfl, ?_, rfl, ?_⟩
    · rw [← hg, ← h]
      exact hstem
    · rw [← hg, ← h]
      exact hcolumn
    · rintro other rfl
      exact hg

theorem property_eq_of_shortenedTo (hf : f ∈ (ofTable settings t).fields)
    (h : Field.ShortenedTo settings.referenceSuffix f g) : f.property = g.property := by
  have hright := h.property_right
  obtain ⟨r, stem, hstem, hsuffix, rfl, hcolumn, hg, -⟩ := h
  show r.property = g.property
  rw [property_of_relation_mem hf, hcolumn, Relation.propertyName_append hstem hsuffix, hright, hg]

/-- **Two fields of different columns have one name exactly if one is shortened to the other.** -/
theorem property_eq_iff (hf : f ∈ (ofTable settings t).fields)
    (hg : g ∈ (ofTable settings t).fields) (hne : f.column ≠ g.column) :
    f.property = g.property ↔
      Field.ShortenedTo settings.referenceSuffix f g ∨
        Field.ShortenedTo settings.referenceSuffix g f := by
  constructor
  · intro h
    rcases property_cases hg with hsame | ⟨-, -, -, hcolumn⟩
    · exact Or.inl (shortenedTo_of_property_eq hf hsame hne h)
    rcases property_cases hf with hsame' | ⟨-, -, -, hcolumn'⟩
    · exact Or.inr (shortenedTo_of_property_eq hg hsame' hne.symm h.symm)
    · -- both are shortened, by the same suffix
      rw [h, ← hcolumn] at hcolumn'
      exact absurd hcolumn' hne
  · rintro (h | h)
    · exact property_eq_of_shortenedTo hf h
    · exact (property_eq_of_shortenedTo hg h).symm

/-- **How the keys of an entity clash.** The second clause is the equivalence; the others say that a
key is what is written, and that nothing but shortening could make two of them one. -/
structure KeysClash (settings : GeneratorSettings) (t : Table) : Prop where
  /-- A key is written in front of its field's type. -/
  written : ∀ f ∈ (ofTable settings t).fields, ∃ decorators script,
    f.lines = decorators ++ [f.keyText ++ ": " ++ script ++ ";"]
  /-- Two fields have one key exactly if one is a relation that is shortened to the other. -/
  clash : ∀ (i j : Nat) f g, i ≠ j → (ofTable settings t).fields[i]? = some f →
    (ofTable settings t).fields[j]? = some g →
      (f.keyText = g.keyText ↔
        Field.ShortenedTo settings.referenceSuffix f g ∨
          Field.ShortenedTo settings.referenceSuffix g f)
  /-- Different names are written as different keys. -/
  injective : Function.Injective Naming.propertyKey
  /-- A name that stands bare is not what another looks like between quotes. -/
  apart : ∀ name, Naming.isIdentifier name.toList = true → ∀ value,
    Naming.propertyKey name ≠ singleQuoted value
  /-- Names do not vanish. -/
  nonempty : ∀ f ∈ (ofTable settings t).fields, f.column ≠ "" → f.property ≠ ""

/-- **Keys clash where a relation is shortened, and nowhere else.** -/
theorem keysClash (settings : GeneratorSettings) {t : Table}
    (h : (t.columns.map Column.name).Nodup) : KeysClash settings t where
  written f _ := f.exists_lines_eq
  clash := by
    intro i j f g hij hi hj
    have hne := column_ne_of_ne h hij hi hj
    rw [← property_eq_iff (List.mem_of_getElem? hi) (List.mem_of_getElem? hj) hne]
    exact Naming.propertyKey_injective.eq_iff
  injective := Naming.propertyKey_injective
  apart := by
    intro name hname value
    rw [Naming.propertyKey, if_pos hname]
    exact Naming.ne_singleQuoted_of_isIdentifier hname value
  nonempty := by
    intro f hf hcolumn
    rcases property_cases hf with hsame | ⟨-, -, hsome, -⟩
    · rw [hsame]
      exact hcolumn
    · exact hsome

end Entity

/-! ## Clashes in a chain -/

/-- A column, a reference that is shortened to it, and one that is shortened to the reference. -/
def Table.accounts : Table :=
  { name := "accounts"
    columns :=
      [ ⟨"a", "text", none, false, none, "text"⟩,
        ⟨"a_id", "integer", none, false, none, "int4"⟩,
        ⟨"a_id_id", "integer", none, false, none, "int4"⟩ ]
    primaryKey := []
    foreignKeys := [⟨"a_id", "accounts", "id"⟩, ⟨"a_id_id", "accounts", "id"⟩]
    enumLabels := EnumLabels.empty }

theorem Entity.keysClash_accounts :
    (Table.accounts.columns.map Column.name).Nodup ∧ KeysClash .defaults Table.accounts ∧
      (ofTable .defaults Table.accounts).fields.map Field.keyText = ["a", "a", "a_id"] := by
  have hnodup : (Table.accounts.columns.map Column.name).Nodup := by decide
  exact ⟨hnodup, keysClash .defaults hnodup, by decide +kernel⟩

end CatalogEntities
