import CatalogEntities.Entity.Source
import CatalogEntities.Proofs.Text.Scan

/-!
# `Proofs/Entity/Literals.lean` — what is written between quotes

Names and native types are written into an entity file between single quotes, labels and expressions
between double quotes. Both kinds of literal delimit themselves (`Text.DelimitsItself`), and so the
lists of labels in the field of an enumeration column do: in its decorator they are followed by the
end of the list, in the type of its property by the end of the declaration or by one more
alternative that is no label.

What self-delimiting means, and that a quoted value has it with any quote but the backslash, is in
`Proofs/Text/Scan.lean`; here it is applied where several literals follow each other. The labels of
a column are written twice, with different separators, and each list is read back up to the text
that the field goes on with. A label may hold the separator, the quote and the text behind the list.
-/

set_option autoImplicit false

namespace CatalogEntities

open Text

namespace Field

/-- **A choice field tells its labels**, in its decorator and in the type of its property. -/
def TellsLabels (column : String) (labels : List String) (nullable : Bool) : Prop :=
  ∃ list union : String,
    (choice column labels nullable).lines =
        ["@Column('enum', \x7b " ++ nameEntry column ++ ", enum: [" ++ list,
          Naming.propertyKey column ++ ": " ++ union] ∧
      (splitLiterals '"' ", " list.toList).1 = labels ∧
      (splitLiterals '"' " | " union.toList).1 = labels

/-- What stands behind the labels in the decorator. -/
def afterList (nullable : Bool) : String :=
  if nullable then "], nullable: true \x7d)" else "] \x7d)"

/-- What stands behind the labels in the declaration. -/
def afterUnion (nullable : Bool) : String := if nullable then " | null;" else ";"

/-- The two lines of a choice, cut where the labels begin and where they end. -/
theorem lines_choice (column : String) (labels : List String) (nullable : Bool) :
    (choice column labels nullable).lines =
      ["@Column('enum', \x7b " ++ nameEntry column ++ ", enum: [" ++
          (", ".intercalate (labels.map doubleQuoted) ++ afterList nullable),
        Naming.propertyKey column ++ ": " ++
          (" | ".intercalate (labels.map doubleQuoted) ++ afterUnion nullable)] := by
  have hfront : ∀ text : String,
      "@Column('enum', \x7b " ++ (nameEntry column ++ (", enum: [" ++ text)) =
        "@Column('enum', " ++ ("\x7b " ++ (nameEntry column ++ (", " ++ ("enum: [" ++ text)))) := by
    have hopen : "@Column('enum', \x7b " = "@Column('enum', " ++ "\x7b " := by decide
    have hentry : ", enum: [" = ", " ++ "enum: [" := by decide
    intro text
    rw [hopen, hentry]
    simp only [String.append_assoc]
  cases nullable with
  | false =>
    simp [lines, objectLiteral, nullableEntry, declaration, orNull, afterList, afterUnion,
      String.append_assoc, hfront]
  | true =>
    simp [lines, objectLiteral, nullableEntry, declaration, orNull, afterList, afterUnion,
      String.append_assoc, hfront]

/-- Neither list goes on behind its labels, not even where the type does. -/
theorem endsList_after (nullable : Bool) :
    EndsList '"' ", " (afterList nullable).toList ∧
      EndsList '"' " | " (afterUnion nullable).toList := by
  cases nullable with
  | false => exact ⟨⟨rfl, rfl⟩, rfl, rfl⟩
  | true => exact ⟨⟨rfl, rfl⟩, rfl, rfl⟩

/-- Any labels are told, in any field. -/
theorem tellsLabels (column : String) (labels : List String) (nullable : Bool) :
    TellsLabels column labels nullable := by
  have hquote : '"' ≠ '\\' := by decide
  obtain ⟨hlist, hunion⟩ := endsList_after nullable
  refine ⟨_, _, lines_choice column labels nullable, ?_, ?_⟩
  · rw [String.toList_append, splitLiterals_literals hquote toList_doubleQuoted hlist]
  · rw [String.toList_append, splitLiterals_literals hquote toList_doubleQuoted hunion]

end Field

/-- **Quoted text is self-delimiting**, between single quotes and between double quotes, and so the
labels of an enumeration column can be read off its field. -/
theorem Text.delimitsItself :
    DelimitsItself '\'' singleQuoted ∧ DelimitsItself '"' doubleQuoted ∧
      ∀ column labels nullable, Field.TellsLabels column labels nullable :=
  ⟨.of_quoted (by decide) toList_singleQuoted, .of_quoted (by decide) toList_doubleQuoted,
    Field.tellsLabels⟩

/-- A comma, both quotes and a backslash at the end do not disturb a list of labels. -/
example : splitLiterals '"' ", " "\"a\\\", \", \"'b'\\\\\"]".toList =
    (["a\", ", "'b'\\"], [']']) := by
  decide

end CatalogEntities
