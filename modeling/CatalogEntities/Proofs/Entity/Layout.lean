import CatalogEntities.Proofs.Dictionary
import CatalogEntities.Proofs.Entity.Emitted
import CatalogEntities.Proofs.Text.OneLine

/-!
# `Proofs/Entity/Layout.lean` — the lines of an entity file

An entity file is written as lines: those in front of the fields, those of the fields with an
empty line between two fields, and a closing brace. `Entity.toList_source` says so of the text;
`Entity.splitOn_source` says that cutting the text at its line feeds gives these lines back, as
long as none of the texts that went into it brings a line feed along.

That none does is a condition on the table (`Table.OneLine`), carried over to what is told of the
fields and from there to every line.

The condition has to be there: quoting escapes the quote and the backslash and nothing else, so a
line feed in the name of a column stands in the file as a line feed. The lemmas `oneLine_...` are
one for each function that writes a part of a line, and say that it adds none of its own.
`Proofs/Entity/Determined.lean` puts them together for a whole file, and what is said elsewhere of
the lines of a file rests on that.
-/

set_option autoImplicit false

namespace CatalogEntities

open CatalogEntities.Text

namespace Field

/-- The lines of a field as they stand in its class. -/
def textLines (f : Field) : List (List Char) := f.lines.map fun line => ' ' :: ' ' :: line.toList

/-- A block of a field is its lines, each with a line feed at its end. -/
theorem toList_source (f : Field) : f.source.toList = f.textLines.flatMap (· ++ ['\n']) := by
  unfold source textLines
  rw [String.toList_join, List.flatMap_map, List.flatMap_map]
  refine congrArg (List.flatMap · _) (funext fun line => ?_)
  rw [String.toList_append, String.toList_append]
  rfl

end Field

namespace Entity

/-- The lines of the fields and the brace behind them. Between two fields there is a line without
characters. -/
def bodyLines (e : Entity) : List (List Char) :=
  [[]].intercalate (e.fields.map Field.textLines) ++ [['}']]

/-- **The lines of an entity file.** -/
def textLines (e : Entity) : List (List Char) := e.headLines.map String.toList ++ e.bodyLines

/-- **The text of an entity is its lines**, each with a line feed at its end. -/
theorem toList_source (e : Entity) :
    e.source.toList = ['\n'].intercalate (e.textLines ++ [[]]) := by
  -- the two parts of the file that are made of lines, brought into one form
  have hhead : (String.join (e.headLines.map (· ++ "\n"))).toList =
      (e.headLines.map String.toList).flatMap (· ++ ['\n']) := by
    rw [String.toList_join, List.flatMap_map, List.flatMap_map]
    refine congrArg (List.flatMap · _) (funext fun line => ?_)
    rw [String.toList_append]
    rfl
  have hfields : ("\n".intercalate (e.fields.map Field.source)).toList =
      ([[]].intercalate (e.fields.map Field.textLines)).flatMap (· ++ ['\n']) := by
    rw [String.toList_intercalate, flatMap_intercalate, List.map_map, List.map_map]
    refine congrArg (List.intercalate ['\n']) (List.map_congr_left fun f _ => ?_)
    exact f.toList_source
  rw [← flatMap_append_singleton_eq]
  unfold source textLines bodyLines
  rw [String.toList_append, String.toList_append, hhead, hfields, List.flatMap_append,
    List.flatMap_append, List.append_assoc]
  rfl

/-- **Cutting an entity file at its line feeds gives its lines**, if they have none inside. -/
theorem splitOn_source {e : Entity} (h : ∀ line ∈ e.textLines, '\n' ∉ line) :
    e.source.toList.splitOn '\n' = e.textLines ++ [[]] := by
  rw [e.toList_source]
  refine List.splitOn_intercalate '\n' (fun line hline => ?_) (by simp)
  rcases List.mem_append.1 hline with hline | hline
  · exact h line hline
  · rw [List.mem_singleton.1 hline]
    exact List.not_mem_nil

end Entity

/-! ## Texts without line feeds -/

/-- **A table whose texts have no line feed**, as far as they can get into an entity. It asks more
than a file needs, a default of a key column among them, and in return it is read off the table
without computing any fields. Where the weaker condition matters it is stated on the emitted fields
(`EmittedField.texts`). -/
structure Table.OneLine (t : Table) : Prop where
  name : Text.OneLine t.name
  column : ∀ c ∈ t.columns, Text.OneLine c.name
  dataType : ∀ c ∈ t.columns, Text.OneLine c.dataType
  default : ∀ c ∈ t.columns, ∀ text ∈ c.default, Text.OneLine text
  label : ∀ entry ∈ t.enumLabels.byColumn.entries, ∀ label ∈ entry.2, Text.OneLine label
  foreignKey : ∀ fk ∈ t.foreignKeys, Text.OneLine fk.column
  refTable : ∀ fk ∈ t.foreignKeys, Text.OneLine fk.refTable

instance (t : Table) : Decidable t.OneLine :=
  decidable_of_iff
    (Text.OneLine t.name ∧ (∀ c ∈ t.columns, Text.OneLine c.name)
      ∧ (∀ c ∈ t.columns, Text.OneLine c.dataType)
      ∧ (∀ c ∈ t.columns, ∀ text ∈ c.default, Text.OneLine text)
      ∧ (∀ entry ∈ t.enumLabels.byColumn.entries, ∀ label ∈ entry.2, Text.OneLine label)
      ∧ (∀ fk ∈ t.foreignKeys, Text.OneLine fk.column)
      ∧ ∀ fk ∈ t.foreignKeys, Text.OneLine fk.refTable)
    ⟨fun ⟨name, column, dataType, default, label, foreignKey, refTable⟩ =>
        ⟨name, column, dataType, default, label, foreignKey, refTable⟩,
      fun h => ⟨h.name, h.column, h.dataType, h.default, h.label, h.foreignKey, h.refTable⟩⟩

namespace ColumnType

/-- The storage kinds and property types that are known have no line feed. -/
theorem known_oneLine : ∀ entry ∈ known,
    Text.OneLine entry.2.storage ∧ Text.OneLine entry.2.script := by
  decide

theorem oneLine_script (native : String) : Text.OneLine (ofNative native).script := by
  unfold ofNative
  cases h : known.lookup native with
  | none => exact (by decide : Text.OneLine unknownScript)
  | some type => exact (known_oneLine _ (mem_of_lookup_eq_some h)).2

theorem oneLine_storage {native : String} (hnative : Text.OneLine native) :
    Text.OneLine (ofNative native).storage := by
  unfold ofNative
  cases h : known.lookup native with
  | none => exact hnative
  | some type => exact (known_oneLine _ (mem_of_lookup_eq_some h)).1

end ColumnType

theorem DefaultValue.oneLine_source {d : DefaultValue} (h : Text.OneLine d.raw) :
    Text.OneLine d.source := by
  unfold source
  split
  · exact h
  · exact OneLine.append (by decide) h.doubleQuoted

theorem Relation.oneLine_propertyName {suffix column : String} (h : Text.OneLine column) :
    Text.OneLine (propertyName suffix column) := by
  unfold propertyName
  cases hrest : withoutEnding? suffix column with
  | none => exact h
  | some stem =>
    dsimp only
    split
    · exact h
    · exact h.of_withoutEnding? hrest

theorem oneLine_objectLiteral {entries : List String} (h : ∀ e ∈ entries, Text.OneLine e) :
    Text.OneLine (objectLiteral entries) :=
  ((by decide : Text.OneLine "\x7b ").append (OneLine.intercalate (by decide) h)).append
    (by decide)

namespace Field

theorem oneLine_nameEntry {column : String} (h : Text.OneLine column) :
    Text.OneLine (nameEntry column) :=
  OneLine.append (by decide) h.singleQuoted

theorem oneLine_nullableEntry (nullable : Bool) :
    ∀ e ∈ nullableEntry nullable, Text.OneLine e := by
  cases nullable <;> decide

theorem oneLine_orNull {script : String} (h : Text.OneLine script) (nullable : Bool) :
    Text.OneLine (orNull script nullable) := by
  cases nullable with
  | false => exact h
  | true => exact h.append (by decide)

end Field

namespace Field

theorem oneLine_declaration {name script : String} (hname : Text.OneLine name)
    (hscript : Text.OneLine script) : Text.OneLine (declaration name script) :=
  ((hname.propertyKey.append (by decide)).append hscript).append (by decide)

theorem oneLine_keyDecorator {column : String} (h : Text.OneLine column)
    (strategy : KeyStrategy) : Text.OneLine (keyDecorator column strategy) := by
  have hentry : Text.OneLine (objectLiteral [nameEntry column]) :=
    oneLine_objectLiteral fun e he => List.mem_singleton.1 he ▸ oneLine_nameEntry h
  cases strategy <;> exact (OneLine.append (by decide) hentry).append (by decide)

/-- The lines of a choice: the column in both of them, and the labels once in each. -/
theorem oneLine_choice {column : String} {labels : List String} (hcolumn : Text.OneLine column)
    (hlabels : ∀ label ∈ labels, Text.OneLine label) (nullable : Bool) :
    ∀ line ∈ (choice column labels nullable).lines, Text.OneLine line := by
  have hquoted : ∀ s ∈ labels.map doubleQuoted, Text.OneLine s := by
    intro s hs
    obtain ⟨label, hlabel, rfl⟩ := List.mem_map.1 hs
    exact (hlabels label hlabel).doubleQuoted
  intro line hline
  rcases List.mem_cons.1 hline with rfl | hline
  · refine (OneLine.append (by decide) (oneLine_objectLiteral ?_)).append (by decide)
    intro e he
    rcases List.mem_cons.1 he with rfl | he
    · exact oneLine_nameEntry hcolumn
    rcases List.mem_cons.1 he with rfl | he
    · exact (OneLine.append (by decide) (OneLine.intercalate (by decide) hquoted)).append
        (by decide)
    · exact oneLine_nullableEntry nullable e he
  · rw [List.mem_singleton.1 hline]
    exact oneLine_declaration hcolumn
      (oneLine_orNull (OneLine.intercalate (by decide) hquoted) nullable)

/-- The lines of a value column: the options that may be missing are looked at one by one. -/
theorem oneLine_value {column : String} {type : ColumnType} {default : Option DefaultValue}
    (hcolumn : Text.OneLine column) (hstorage : Text.OneLine type.storage)
    (hscript : Text.OneLine type.script) (hdefault : ∀ d ∈ default, Text.OneLine d.source)
    (nullable : Bool) (maxLength : Option Int32) :
    ∀ line ∈ (value column type nullable maxLength default).lines, Text.OneLine line := by
  intro line hline
  rcases List.mem_cons.1 hline with rfl | hline
  -- the decorator is a kind and an object literal, whose entries are name, null, length, default
  · refine (((OneLine.append (by decide) hstorage.singleQuoted).append (by decide)).append
      (oneLine_objectLiteral ?_)).append (by decide)
    intro e he
    rcases List.mem_append.1 he with he | he
    · rcases List.mem_append.1 he with he | he
      · rcases List.mem_cons.1 he with rfl | he
        · exact oneLine_nameEntry hcolumn
        · exact oneLine_nullableEntry nullable e he
      · obtain ⟨n, -, rfl⟩ := Option.map_eq_some_iff.1 (Option.mem_toList.1 he)
        exact OneLine.append (by decide) (oneLine_toString_int n.toInt)
    · obtain ⟨d, hd, rfl⟩ := Option.map_eq_some_iff.1 (Option.mem_toList.1 he)
      exact OneLine.append (by decide) (hdefault d hd)
  · rw [List.mem_singleton.1 hline]
    exact oneLine_declaration hcolumn (oneLine_orNull hscript nullable)

theorem oneLine_relation {r : Relation} (hproperty : Text.OneLine r.property)
    (htarget : Text.OneLine r.target) (hcolumn : Text.OneLine r.column) :
    ∀ line ∈ (relation r).lines, Text.OneLine line := by
  intro line hline
  rcases List.mem_cons.1 hline with rfl | hline
  · exact (OneLine.append (by decide) htarget).append (by decide)
  rcases List.mem_cons.1 hline with rfl | hline
  · refine (OneLine.append (by decide) (oneLine_objectLiteral ?_)).append (by decide)
    intro e he
    rw [List.mem_singleton.1 he]
    exact oneLine_nameEntry hcolumn
  · rw [List.mem_singleton.1 hline]
    exact oneLine_declaration hproperty htarget

end Field

namespace EmittedField

/-- The texts that are told of a field, and so all texts of the catalog that its lines are written
with. -/
def texts : EmittedField → List String
  | key column _ script => [column, script]
  | choice column labels _ => column :: labels
  | value column dataType _ _ default => column :: dataType :: default.toList
  | relation column target => [column, target]

/-- Texts without line feeds are written on lines of their own. -/
theorem oneLine_lines {f : EmittedField} (h : ∀ s ∈ f.texts, Text.OneLine s)
    (referenceSuffix : String) : ∀ line ∈ (f.field referenceSuffix).lines, Text.OneLine line := by
  cases f with
  | key column strategy script =>
    have hcolumn : Text.OneLine column := h _ (by simp [texts])
    have hscript : Text.OneLine script := h _ (by simp [texts])
    intro line hline
    rcases List.mem_cons.1 hline with rfl | hline
    · exact Field.oneLine_keyDecorator hcolumn strategy
    · rw [List.mem_singleton.1 hline]
      exact Field.oneLine_declaration hcolumn hscript
  | choice column labels nullable =>
    have hcolumn : Text.OneLine column := h _ (by simp [texts])
    refine Field.oneLine_choice hcolumn (fun label hlabel => ?_) nullable
    exact h label (List.mem_cons_of_mem _ hlabel)
  | value column dataType nullable maxLength default =>
    have hcolumn : Text.OneLine column := h _ (by simp [texts])
    have htype : Text.OneLine dataType := h _ (by simp [texts])
    refine Field.oneLine_value hcolumn (ColumnType.oneLine_storage htype)
      (ColumnType.oneLine_script dataType) (fun d hd => ?_) nullable maxLength
    obtain ⟨raw, hraw, rfl⟩ := Option.map_eq_some_iff.1 hd
    have htext : Text.OneLine raw := h raw (by simp [texts, hraw])
    exact DefaultValue.oneLine_source (by rwa [DefaultValue.raw_classify])
  | relation column target =>
    have hcolumn : Text.OneLine column := h _ (by simp [texts])
    have htarget : Text.OneLine target := h _ (by simp [texts])
    exact Field.oneLine_relation (Relation.oneLine_propertyName hcolumn) htarget hcolumn

end EmittedField

/-! ## From the table to the lines -/

theorem mem_of_mem_firstOfEachColumn {fk : ForeignKey} :
    ∀ {fks : List ForeignKey}, fk ∈ firstOfEachColumn fks → fk ∈ fks := by
  intro fks
  induction fks with
  | nil => exact id
  | cons first rest ih =>
    intro h
    rcases List.mem_cons.1 h with rfl | h
    · exact List.mem_cons_self
    · exact List.mem_cons_of_mem _ (ih (List.mem_of_mem_filter h))

/-- The labels of a column are labels of the table. -/
theorem Table.get?_of_enumLabelsFor {t : Table} {column : String} {labels : List String}
    (h : t.enumLabelsFor column = some labels) : t.enumLabels.get? column = some labels := by
  unfold enumLabelsFor at h
  split at h
  · exact absurd h (by simp)
  · exact h

/-- A default that a column keeps is its text, sorted, and no sequence gives it its value. -/
theorem DefaultValue.exists_of_ofPlainColumn {default : Option String} {d : DefaultValue}
    (h : ofPlainColumn default = some d) :
    ∃ text, default = some text ∧ mentions text sequenceMarker = false ∧ classify text = d := by
  obtain ⟨text, hdefault, h⟩ := Option.bind_eq_some_iff.1 h
  split at h
  · exact absurd h (by simp)
  · rename_i hnone
    exact ⟨text, hdefault, Bool.eq_false_iff.2 hnone, Option.some.inj h⟩

theorem DefaultValue.raw_of_ofPlainColumn {default : Option String} {d : DefaultValue}
    (h : ofPlainColumn default = some d) : default = some d.raw := by
  obtain ⟨text, rfl, -, rfl⟩ := exists_of_ofPlainColumn h
  rw [raw_classify]

/-- The texts of a column that is no key are texts of the table: its labels if it has some, and its
type and default otherwise. -/
theorem Table.OneLine.ofColumn {t : Table} (h : t.OneLine) {c : Column} (hc : c ∈ t.columns) :
    ∀ s ∈ (EmittedField.ofColumn t c).texts, Text.OneLine s := by
  unfold EmittedField.ofColumn
  intro s hs
  cases hlabels : t.enumLabelsFor c.name with
  | some labels =>
    rw [hlabels] at hs
    rcases List.mem_cons.1 hs with rfl | hs
    · exact h.column c hc
    · have hentry := Dictionary.mem_entries_of_find? (Table.get?_of_enumLabelsFor hlabels)
      exact h.label _ hentry s hs
  | none =>
    rw [hlabels] at hs
    rcases List.mem_cons.1 hs with rfl | hs
    · exact h.column c hc
    rcases List.mem_cons.1 hs with rfl | hs
    · exact h.dataType c hc
    · obtain ⟨d, hd, rfl⟩ := Option.map_eq_some_iff.1 (Option.mem_toList.1 hs)
      exact h.default c hc d.raw (DefaultValue.raw_of_ofPlainColumn hd)

/-- What is told of a table's fields has no line feed that the table does not have. -/
theorem Table.OneLine.emitted {t : Table} (h : t.OneLine) (settings : GeneratorSettings) :
    ∀ f ∈ t.emitted settings, ∀ s ∈ f.texts, Text.OneLine s := by
  have hplain : ∀ c ∈ (Resolution.ofTable settings.referenceSuffix t).plain, c ∈ t.columns :=
    fun c hc => List.mem_of_mem_filter hc
  intro f hf s hs
  -- key columns, other plain columns, relations
  rcases List.mem_append.1 hf with hf | hf
  · rcases List.mem_append.1 hf with hf | hf
    · obtain ⟨c, hc, hf⟩ := List.mem_filterMap.1 hf
      obtain ⟨strategy, -, rfl⟩ := Option.map_eq_some_iff.1 hf
      rcases List.mem_cons.1 hs with rfl | hs
      · exact h.column c (hplain c hc)
      · rw [List.mem_singleton.1 hs]
        cases strategy with
        | generatedUuid => exact (by decide : Text.OneLine "string")
        | generatedSequence => exact (by decide : Text.OneLine "number")
        | plain => exact ColumnType.oneLine_script c.dataType
    · obtain ⟨c, hc, rfl⟩ := List.mem_map.1 hf
      have hcolumn : c ∈ t.columns := hplain c (List.mem_of_mem_filter hc)
      exact h.ofColumn hcolumn s hs
  · obtain ⟨r, hr, rfl⟩ := List.mem_map.1 hf
    obtain ⟨fk, hfk, rfl⟩ := List.mem_map.1 hr
    have hfk : fk ∈ t.foreignKeys := mem_of_mem_firstOfEachColumn hfk
    rcases List.mem_cons.1 hs with rfl | hs
    · exact h.foreignKey fk hfk
    · rw [List.mem_singleton.1 hs]
      exact (h.refTable fk hfk).className

end CatalogEntities
