import CatalogEntities.Proofs.Entity.Fields
import CatalogEntities.Proofs.Text.LineBreaks

/-!
# `Proofs/Entity/LineBreaks.lean` — how many line breaks an entity file has

The frame of an entity file has one line break for each of its lines, and how many lines there are
depends on numbers alone: of imports, of columns that are no references, of references. What stands
on the lines are texts of the catalog, and quoting leaves the line breaks of a text as they are. So
every line break of a name, a label, a native type or a default comes on top
(`Entity.lineBreaks_source`), and a file has the line breaks of its frame exactly if none of the
texts that get into it has one (`EntityFile.countsBreaks`).

Counting and not bounding is what makes the second half an equivalence: a text that is written three
times adds its line breaks three times, and a text that gets into no file, as the default of a
column that a sequence fills, adds none. The lemmas follow the functions that write a file from the
inside out, one for each, and all have the form `lineBreaks (write x) = ...`, so that the sums at
the end are closed by `omega`.
-/

set_option autoImplicit false

namespace CatalogEntities

open CatalogEntities.Text

/-! ## Parts of a line -/

theorem lineBreaks_objectLiteral (entries : List String) :
    lineBreaks (objectLiteral entries) = (entries.map lineBreaks).sum := by
  rw [objectLiteral, lineBreaks_append, lineBreaks_append, lineBreaks_intercalate,
    (by decide : lineBreaks "\x7b " = 0), (by decide : lineBreaks " \x7d" = 0),
    (by decide : lineBreaks ", " = 0)]
  omega

/-- A default is written as it is or in quotes, and neither changes its line breaks. -/
theorem DefaultValue.lineBreaks_source (d : DefaultValue) :
    lineBreaks d.source = lineBreaks d.raw := by
  unfold source
  split
  · rfl
  · rw [lineBreaks_append, lineBreaks_doubleQuoted, (by decide : lineBreaks "() => " = 0),
      Nat.zero_add]

namespace ColumnType

/-- The native types that are known have no line breaks, nor have the types that they become. -/
theorem known_unbroken : ∀ entry ∈ known, lineBreaks entry.1 = 0 ∧
    lineBreaks entry.2.storage = 0 ∧ lineBreaks entry.2.script = 0 := by
  decide

theorem lineBreaks_storage (native : String) :
    lineBreaks (ofNative native).storage = lineBreaks native := by
  unfold ofNative
  cases h : known.lookup native with
  | none => rfl
  | some type =>
    obtain ⟨hnative, hstorage, -⟩ := known_unbroken _ (mem_of_lookup_eq_some h)
    rw [hnative]
    exact hstorage

theorem lineBreaks_script (native : String) : lineBreaks (ofNative native).script = 0 := by
  unfold ofNative
  cases h : known.lookup native with
  | none => exact (by decide : lineBreaks unknownScript = 0)
  | some type => exact (known_unbroken _ (mem_of_lookup_eq_some h)).2.2

end ColumnType

/-- The property of a relation may leave out the suffix of its column, and line breaks with it: so
this is a bound, and the only one among these lemmas. -/
theorem Relation.lineBreaks_propertyName_le (suffix column : String) :
    lineBreaks (propertyName suffix column) ≤ lineBreaks column := by
  unfold propertyName
  cases hrest : withoutEnding? suffix column with
  | none => exact Nat.le_refl _
  | some stem =>
    dsimp only
    split
    · exact Nat.le_refl _
    · rw [eq_append_of_withoutEnding? hrest, lineBreaks_append]
      exact Nat.le_add_right _ _

/-- A module leaves out the `.ts` of a file name, which has no line breaks. -/
theorem Entity.lineBreaks_moduleSuffixOf (suffix : String) :
    lineBreaks (moduleSuffixOf suffix) = lineBreaks suffix := by
  unfold moduleSuffixOf
  cases hrest : withoutEnding? ".ts" suffix with
  | none => rfl
  | some rest =>
    rw [eq_append_of_withoutEnding? hrest, lineBreaks_append, (by decide : lineBreaks ".ts" = 0)]
    rfl

/-! ## Fields -/

namespace Field

/-- The line breaks that the texts of a field bring along, each as often as it is written: the name
of a column stands in its decorator and in its declaration, a label in the list of the decorator and
in the union type. -/
def broughtBreaks : Field → Nat
  | key column _ script => 2 * lineBreaks column + lineBreaks script
  | choice column labels _ => 2 * lineBreaks column + 2 * (labels.map lineBreaks).sum
  | value column type _ _ default =>
      2 * lineBreaks column + lineBreaks type.storage + lineBreaks type.script
        + (default.toList.map fun d => lineBreaks d.raw).sum
  | relation r => 2 * lineBreaks r.target + lineBreaks r.column + lineBreaks r.property

theorem lineBreaks_nameEntry (column : String) :
    lineBreaks (nameEntry column) = lineBreaks column := by
  rw [nameEntry, lineBreaks_append, lineBreaks_singleQuoted, (by decide : lineBreaks "name: " = 0),
    Nat.zero_add]

theorem lineBreaks_nullableEntry (nullable : Bool) :
    ((nullableEntry nullable).map lineBreaks).sum = 0 := by
  cases nullable with
  | false => rfl
  | true => decide

theorem lineBreaks_orNull (script : String) (nullable : Bool) :
    lineBreaks (orNull script nullable) = lineBreaks script := by
  cases nullable with
  | false => rfl
  | true =>
    show lineBreaks (script ++ " | null") = _
    rw [lineBreaks_append, (by decide : lineBreaks " | null" = 0), Nat.add_zero]

theorem lineBreaks_declaration (name script : String) :
    lineBreaks (declaration name script) = lineBreaks name + lineBreaks script := by
  rw [declaration, lineBreaks_append, lineBreaks_append, lineBreaks_append,
    Naming.lineBreaks_propertyKey, (by decide : lineBreaks ": " = 0),
    (by decide : lineBreaks ";" = 0), Nat.add_zero, Nat.add_zero]

/-- A decorator has the line breaks of its options. -/
theorem lineBreaks_decorator {opening : String} (h : lineBreaks opening = 0)
    (entries : List String) :
    lineBreaks (opening ++ objectLiteral entries ++ ")") = (entries.map lineBreaks).sum := by
  rw [lineBreaks_append, lineBreaks_append, lineBreaks_objectLiteral, h,
    (by decide : lineBreaks ")" = 0), Nat.zero_add, Nat.add_zero]

theorem lineBreaks_keyDecorator (column : String) (s : KeyStrategy) :
    lineBreaks (keyDecorator column s) = lineBreaks column := by
  have hentries : ([nameEntry column].map lineBreaks).sum = lineBreaks column := by
    simp [lineBreaks_nameEntry]
  cases s with
  | generatedUuid => exact (lineBreaks_decorator (by decide) _).trans hentries
  | generatedSequence => exact (lineBreaks_decorator (by decide) _).trans hentries
  | plain => exact (lineBreaks_decorator (by decide) _).trans hentries

/-- Texts with something without line breaks in between. -/
theorem lineBreaks_literals {sep : String} (h : lineBreaks sep = 0) (labels : List String) :
    lineBreaks (sep.intercalate (labels.map doubleQuoted)) = (labels.map lineBreaks).sum := by
  rw [lineBreaks_intercalate, h, Nat.mul_zero, Nat.add_zero, List.map_map]
  apply congrArg List.sum
  apply List.map_congr_left
  intro label _
  rw [Function.comp_apply, lineBreaks_doubleQuoted]

/-- **The lines of a field have the line breaks of its texts.** In each case the lines are taken
apart into the texts of the frame, which have none, and the texts of the catalog. -/
theorem lineBreaks_lines (f : Field) : (f.lines.map lineBreaks).sum = f.broughtBreaks := by
  cases f with
  | key column s script =>
    simp only [lines, List.map_cons, List.map_nil, List.sum_cons, List.sum_nil,
      lineBreaks_keyDecorator, lineBreaks_declaration, broughtBreaks]
    omega
  | choice column labels nullable =>
    have hoptions := lineBreaks_decorator (by decide : lineBreaks "@Column('enum', " = 0)
      (nameEntry column :: ("enum: [" ++ ", ".intercalate (labels.map doubleQuoted) ++ "]") ::
        nullableEntry nullable)
    simp only [lines, List.map_cons, List.map_nil, List.sum_cons, List.sum_nil, hoptions,
      lineBreaks_declaration, lineBreaks_orNull, lineBreaks_append, lineBreaks_nameEntry,
      lineBreaks_literals (by decide : lineBreaks ", " = 0),
      lineBreaks_literals (by decide : lineBreaks " | " = 0), lineBreaks_nullableEntry,
      (by decide : lineBreaks "enum: [" = 0), (by decide : lineBreaks "]" = 0), broughtBreaks]
    omega
  | value column type nullable maxLength default =>
    -- of the two options that may be missing, only the default can bring line breaks along
    have hlength : ((maxLength.map fun n => "length: " ++ toString n.toInt).toList.map
        lineBreaks).sum = 0 := by
      cases maxLength with
      | none => rfl
      | some n =>
        show lineBreaks ("length: " ++ toString n.toInt) + 0 = 0
        rw [lineBreaks_append, lineBreaks_toString_int, (by decide : lineBreaks "length: " = 0)]
    have hdefault : ((default.map fun d => "default: " ++ d.source).toList.map lineBreaks).sum =
        (default.toList.map fun d => lineBreaks d.raw).sum := by
      cases default with
      | none => rfl
      | some d =>
        show lineBreaks ("default: " ++ d.source) + 0 = lineBreaks d.raw + 0
        rw [lineBreaks_append, d.lineBreaks_source, (by decide : lineBreaks "default: " = 0),
          Nat.zero_add]
    simp only [lines, List.map_cons, List.map_nil, List.sum_cons, List.sum_nil, List.map_append,
      List.sum_append, lineBreaks_append, lineBreaks_objectLiteral, lineBreaks_singleQuoted,
      lineBreaks_declaration, lineBreaks_orNull, lineBreaks_nameEntry, lineBreaks_nullableEntry,
      hlength, hdefault, (by decide : lineBreaks "@Column(" = 0),
      (by decide : lineBreaks ", " = 0), (by decide : lineBreaks ")" = 0), broughtBreaks]
    omega
  | relation r =>
    have hjoin := lineBreaks_decorator (by decide : lineBreaks "@JoinColumn(" = 0)
      [nameEntry r.column]
    simp only [lines, List.map_cons, List.map_nil, List.sum_cons, List.sum_nil, hjoin,
      lineBreaks_declaration, lineBreaks_append, lineBreaks_nameEntry,
      (by decide : lineBreaks "@ManyToOne(() => " = 0), (by decide : lineBreaks ")" = 0),
      broughtBreaks]
    omega

/-- Every line of a block ends with a line break, and the rest are those of the texts. -/
theorem lineBreaks_source (f : Field) :
    lineBreaks f.source = f.lines.length + f.broughtBreaks := by
  have hline : ∀ line, lineBreaks ("  " ++ line ++ "\n") = lineBreaks line + 1 := by
    intro line
    rw [lineBreaks_append, lineBreaks_append, (by decide : lineBreaks "  " = 0),
      (by decide : lineBreaks "\n" = 1), Nat.zero_add]
  rw [source, lineBreaks_join_map hline, lineBreaks_lines]
  omega

end Field

/-! ## Entities -/

namespace Entity

/-- The line breaks that the texts of an entity bring along. A related class is written twice on the
line that imports it, and the suffix once. -/
def broughtBreaks (e : Entity) : Nat :=
  lineBreaks e.table + lineBreaks e.className
    + (e.imports.map fun name => 2 * lineBreaks name + lineBreaks e.moduleSuffix).sum
    + (e.fields.map Field.broughtBreaks).sum

/-- The line breaks of the frame of a file: of the head with its imports, of two lines for each
column and three for each reference, of the empty lines between them and of the closing brace. The
subtraction is exact also for no fields at all, since there are then no empty lines to count. -/
def frameBreaks (imports columns references : Nat) : Nat :=
  5 + imports + (2 * columns + 3 * references) + (columns + references - 1) + 1

theorem lineBreaks_importLine (moduleSuffix name : String) :
    lineBreaks (importLine moduleSuffix name) = 2 * lineBreaks name + lineBreaks moduleSuffix := by
  simp only [importLine, lineBreaks_append, lineBreaks_singleQuoted,
    (by decide : lineBreaks "import \x7b " = 0), (by decide : lineBreaks " \x7d from " = 0),
    (by decide : lineBreaks "./" = 0), (by decide : lineBreaks ";" = 0)]
  omega

theorem lineBreaks_headLines (e : Entity) :
    (e.headLines.map lineBreaks).sum =
      lineBreaks e.table + lineBreaks e.className
        + (e.imports.map fun name => 2 * lineBreaks name + lineBreaks e.moduleSuffix).sum := by
  have himports : ((e.imports.map (importLine e.moduleSuffix)).map lineBreaks) =
      e.imports.map fun name => 2 * lineBreaks name + lineBreaks e.moduleSuffix := by
    rw [List.map_map]
    apply List.map_congr_left
    intro name _
    exact lineBreaks_importLine e.moduleSuffix name
  simp only [headLines, List.map_append, List.sum_append, List.map_cons, List.map_nil,
    List.sum_cons, List.sum_nil, himports, lineBreaks_append, lineBreaks_singleQuoted,
    (by decide : lineBreaks header = 0), (by decide : lineBreaks decoratorImport = 0),
    (by decide : lineBreaks "" = 0), (by decide : lineBreaks "@Entity(" = 0),
    (by decide : lineBreaks ")" = 0), (by decide : lineBreaks "export class " = 0),
    (by decide : lineBreaks " \x7b" = 0)]
  omega

/-- **The line breaks of an entity file**: those of its lines, of the empty lines between fields, of
the brace, and those that its texts bring along. -/
theorem lineBreaks_source (e : Entity) :
    lineBreaks e.source =
      5 + e.imports.length + (e.fields.map fun f => f.lines.length).sum + (e.fields.length - 1) + 1
        + e.broughtBreaks := by
  have hfields : ((e.fields.map Field.source).map lineBreaks).sum =
      (e.fields.map fun f => f.lines.length).sum + (e.fields.map Field.broughtBreaks).sum := by
    induction e.fields with
    | nil => rfl
    | cons f fields ih =>
      simp only [List.map_cons, List.sum_cons, ih, f.lineBreaks_source]
      omega
  have hhead : e.headLines.length = 5 + e.imports.length := by
    simp [headLines]
    omega
  have hline : ∀ line, lineBreaks (line ++ "\n") = lineBreaks line + 1 := by
    intro line
    rw [lineBreaks_append, (by decide : lineBreaks "\n" = 1)]
  rw [source, lineBreaks_append, lineBreaks_append, lineBreaks_join_map hline,
    lineBreaks_headLines, hhead, lineBreaks_intercalate, hfields, List.length_map,
    (by decide : lineBreaks "\n" = 1), (by decide : lineBreaks "\x7d\n" = 1), broughtBreaks]
  omega

end Entity

/-! ## Tables -/

namespace Table

/-- **What is written of a column that is neither a key column nor a reference has no line
breaks.** Which texts are written depends on the column: labels if it has some, and its type and its
default if it has none. -/
structure UnbrokenColumn (t : Table) (c : Column) : Prop where
  name : lineBreaks c.name = 0
  labels : ∀ labels, t.enumLabels.get? c.name = some labels →
    ∀ label ∈ labels, lineBreaks label = 0
  dataType : t.enumLabels.get? c.name = none → lineBreaks c.dataType = 0
  /-- A default that is dropped does not count. -/
  default : t.enumLabels.get? c.name = none → ∀ text, c.default = some text →
    ¬ mentions text DefaultValue.sequenceMarker → lineBreaks text = 0

/-- **The texts of a table that get into its entity file have no line breaks.** Of a key column that
is only its name, of a reference the name of the column and of the table it leads to. -/
structure Unbroken (settings : GeneratorSettings) (t : Table) : Prop where
  name : lineBreaks t.name = 0
  keys : ∀ c ∈ t.keyColumns, lineBreaks c.name = 0
  others : ∀ c ∈ t.otherColumns, t.UnbrokenColumn c
  references : ∀ fk ∈ firstOfEachColumn t.foreignKeys,
    lineBreaks fk.column = 0 ∧ lineBreaks fk.refTable = 0
  /-- The suffix of other files stands in imports only. -/
  suffix : (Entity.ofTable settings t).imports ≠ [] → lineBreaks settings.fileSuffix = 0

theorem length_ownColumns (t : Table) :
    t.keyColumns.length + t.otherColumns.length = t.ownColumns.length := by
  rw [← List.length_append]
  exact t.perm_ownColumns.length_eq

/-- There is a first foreign key for each reference. -/
theorem length_firstOfEachColumn (t : Table) :
    (firstOfEachColumn t.foreignKeys).length = t.referenceColumns.length := by
  rw [referenceColumns, ← map_column_firstOfEachColumn, List.length_map]

end Table

namespace Field

theorem length_lines_otherField (t : Table) (c : Column) : (t.otherField c).lines.length = 2 := by
  unfold Table.otherField
  cases t.enumLabels.get? c.name with
  | some labels => rfl
  | none => rfl

/-- No script type of a key has a line break. -/
theorem broughtBreaks_keyField (t : Table) (c : Column) :
    (t.keyField c).broughtBreaks = 2 * lineBreaks c.name := by
  have hscript : lineBreaks (keyScript c (.select (t.lastNamesake c))) = 0 := by
    cases KeyStrategy.select (t.lastNamesake c) with
    | generatedUuid => exact (by decide : lineBreaks "string" = 0)
    | generatedSequence => exact (by decide : lineBreaks "number" = 0)
    | plain => exact ColumnType.lineBreaks_script c.dataType
  rw [Table.keyField, broughtBreaks, hscript, Nat.add_zero]

/-- A default brings line breaks along if the column keeps it. -/
theorem keptDefault_eq_zero_iff (default : Option String) :
    ((DefaultValue.ofPlainColumn default).toList.map fun d => lineBreaks d.raw).sum = 0 ↔
      ∀ text, default = some text → ¬ mentions text DefaultValue.sequenceMarker →
        lineBreaks text = 0 := by
  cases default with
  | none => simp [DefaultValue.ofPlainColumn]
  | some text =>
    by_cases hsequence : mentions text DefaultValue.sequenceMarker
    · simp [DefaultValue.ofPlainColumn, hsequence]
    · simp [DefaultValue.ofPlainColumn, hsequence, DefaultValue.raw_classify]

/-- The field of such a column brings no line breaks along exactly if the column is unbroken. -/
theorem broughtBreaks_otherField (t : Table) (c : Column) :
    (t.otherField c).broughtBreaks = 0 ↔ t.UnbrokenColumn c := by
  unfold Table.otherField
  -- the conditions on the other kind of column hold for want of such a column
  cases hlabels : t.enumLabels.get? c.name with
  | some labels =>
    have hsum : (labels.map lineBreaks).sum = 0 ↔ ∀ label ∈ labels, lineBreaks label = 0 := by
      rw [List.sum_eq_zero_iff_forall_eq_nat, List.forall_mem_map]
    constructor
    · intro h
      simp only [broughtBreaks] at h
      refine ⟨by omega, ?_, ?_, ?_⟩
      · intro found hfound
        obtain rfl : labels = found := Option.some.inj (hlabels.symm.trans hfound)
        exact hsum.1 (by omega)
      · intro hnone
        cases hlabels.symm.trans hnone
      · intro hnone
        cases hlabels.symm.trans hnone
    · intro h
      simp only [broughtBreaks, h.name, hsum.2 (h.labels labels hlabels)]
  | none =>
    have hdefault := keptDefault_eq_zero_iff c.default
    have htype := ColumnType.lineBreaks_storage c.dataType
    have hscript := ColumnType.lineBreaks_script c.dataType
    constructor
    · intro h
      simp only [broughtBreaks, htype, hscript] at h
      refine ⟨by omega, ?_, fun _ => by omega, fun _ => hdefault.1 (by omega)⟩
      intro labels hsome
      cases hlabels.symm.trans hsome
    · intro h
      simp only [broughtBreaks, htype, hscript, h.name, h.dataType hlabels,
        hdefault.2 (h.default hlabels)]

/-- The property of a relation needs no condition of its own, as it has no more line breaks than the
column. -/
theorem broughtBreaks_relation {suffix : String} {fk : ForeignKey} :
    (relation (.ofForeignKey suffix fk)).broughtBreaks = 0 ↔
      lineBreaks fk.column = 0 ∧ lineBreaks fk.refTable = 0 := by
  have hproperty := Relation.lineBreaks_propertyName_le suffix fk.column
  simp only [broughtBreaks, Relation.ofForeignKey, Naming.lineBreaks_className]
  omega

end Field

namespace Entity

variable (settings : GeneratorSettings) (t : Table)

/-- Two lines for each column, three for each reference. -/
theorem sum_length_lines_fields :
    ((ofTable settings t).fields.map fun f => f.lines.length).sum =
      2 * t.ownColumns.length + 3 * t.referenceColumns.length := by
  have hkeys : ((t.keyColumns.map t.keyField).map fun f => f.lines.length) =
      t.keyColumns.map fun _ => 2 := by
    rw [List.map_map]
    rfl
  have hothers : ((t.otherColumns.map t.otherField).map fun f => f.lines.length) =
      t.otherColumns.map fun _ => 2 := by
    rw [List.map_map]
    apply List.map_congr_left
    intro c _
    exact Field.length_lines_otherField t c
  have hrelations : (((Resolution.ofTable settings.referenceSuffix t).relations.map
      Field.relation).map fun f => f.lines.length) =
      (firstOfEachColumn t.foreignKeys).map fun _ => 3 := by
    rw [Resolution.ofTable, List.map_map, List.map_map]
    rfl
  rw [fields_ofTable, List.map_append, List.map_append, hkeys, hothers, hrelations,
    List.sum_append, List.sum_append, ← t.length_ownColumns, ← t.length_firstOfEachColumn]
  simp only [List.map_const', List.sum_replicate_nat]
  omega

theorem length_fields :
    (ofTable settings t).fields.length = t.ownColumns.length + t.referenceColumns.length := by
  rw [fields_ofTable, List.length_append, List.length_append, List.length_map, List.length_map,
    List.length_map, Resolution.ofTable, List.length_map, t.length_ownColumns,
    t.length_firstOfEachColumn]

/-- The classes that are imported are those of first foreign keys. -/
theorem exists_foreignKey_of_mem_imports {name : String} (h : name ∈ (ofTable settings t).imports) :
    ∃ fk ∈ firstOfEachColumn t.foreignKeys, Naming.className fk.refTable = name := by
  have htarget : name ∈ (Resolution.ofTable settings.referenceSuffix t).relations.map
      Relation.target :=
    List.mem_of_mem_filter (List.mem_eraseDups.1 h)
  obtain ⟨r, hr, rfl⟩ := List.mem_map.1 htarget
  obtain ⟨fk, hfk, rfl⟩ := List.mem_map.1 hr
  exact ⟨fk, hfk, rfl⟩

/-- The three blocks of fields, each with its condition. -/
theorem sum_broughtBreaks_fields :
    ((ofTable settings t).fields.map Field.broughtBreaks).sum = 0 ↔
      (∀ c ∈ t.keyColumns, lineBreaks c.name = 0) ∧ (∀ c ∈ t.otherColumns, t.UnbrokenColumn c) ∧
        ∀ fk ∈ firstOfEachColumn t.foreignKeys,
          lineBreaks fk.column = 0 ∧ lineBreaks fk.refTable = 0 := by
  have hkey : ∀ c, (t.keyField c).broughtBreaks = 0 ↔ lineBreaks c.name = 0 := by
    intro c
    rw [Field.broughtBreaks_keyField]
    omega
  rw [List.sum_eq_zero_iff_forall_eq_nat, List.forall_mem_map, fields_ofTable,
    List.forall_mem_append, List.forall_mem_append, List.forall_mem_map, List.forall_mem_map,
    List.forall_mem_map, Resolution.ofTable, List.forall_mem_map, and_assoc]
  simp only [hkey, Field.broughtBreaks_otherField, Field.broughtBreaks_relation]

/-- **The texts of an entity bring no line breaks along if those of its table have none**, and only
then. -/
theorem broughtBreaks_eq_zero_iff :
    (ofTable settings t).broughtBreaks = 0 ↔ t.Unbroken settings := by
  have hsuffix : lineBreaks (ofTable settings t).moduleSuffix = lineBreaks settings.fileSuffix :=
    lineBreaks_moduleSuffixOf settings.fileSuffix
  have hclass : lineBreaks (ofTable settings t).className = lineBreaks t.name :=
    Naming.lineBreaks_className t.name
  have hname : (ofTable settings t).table = t.name := rfl
  have hfields := sum_broughtBreaks_fields settings t
  have himports : ((ofTable settings t).imports.map fun name =>
      2 * lineBreaks name + lineBreaks settings.fileSuffix).sum = 0 ↔
        ∀ name ∈ (ofTable settings t).imports,
          lineBreaks name = 0 ∧ lineBreaks settings.fileSuffix = 0 := by
    have hone : ∀ name, 2 * lineBreaks name + lineBreaks settings.fileSuffix = 0 ↔
        lineBreaks name = 0 ∧ lineBreaks settings.fileSuffix = 0 := by
      intro name
      omega
    rw [List.sum_eq_zero_iff_forall_eq_nat, List.forall_mem_map]
    simp only [hone]
  rw [broughtBreaks, hsuffix, hclass, hname]
  -- a sum of counts is zero exactly if each of them is, which leaves the imports to look at: they
  -- are counted with the suffix, and their names are those of tables that references lead to
  constructor
  · intro h
    obtain ⟨hkeys, hothers, hreferences⟩ := hfields.1 (by omega)
    refine ⟨by omega, hkeys, hothers, hreferences, ?_⟩
    intro hsome
    obtain ⟨name, himport⟩ := List.exists_mem_of_ne_nil _ hsome
    exact (himports.1 (by omega) name himport).2
  · intro h
    have hnames : ∀ name ∈ (ofTable settings t).imports,
        lineBreaks name = 0 ∧ lineBreaks settings.fileSuffix = 0 := by
      intro name himport
      refine ⟨?_, h.suffix (List.ne_nil_of_mem himport)⟩
      obtain ⟨fk, hfk, rfl⟩ := exists_foreignKey_of_mem_imports settings t himport
      rw [Naming.lineBreaks_className]
      exact (h.references fk hfk).2
    rw [h.name, himports.2 hnames, hfields.2 ⟨h.keys, h.others, h.references⟩]

end Entity

/-! ## Entity files -/

namespace EntityFile

/-- **How many line breaks the entity file of a table has.** The first clause is the exact number,
the second says when it depends on numbers of columns and references alone. -/
structure CountsBreaks (settings : GeneratorSettings) (t : Table) : Prop where
  /-- Those of the frame, and each line break of a text as often as the text is written. -/
  count : lineBreaks (ofTable settings t).contents =
    Entity.frameBreaks (Entity.ofTable settings t).imports.length t.ownColumns.length
        t.referenceColumns.length
      + (Entity.ofTable settings t).broughtBreaks
  /-- The number is that of the frame exactly if no text in the file has a line break. -/
  framed : lineBreaks (ofTable settings t).contents =
      Entity.frameBreaks (Entity.ofTable settings t).imports.length t.ownColumns.length
        t.referenceColumns.length ↔
    t.Unbroken settings

/-- **The line breaks of an entity file** are those of its frame and those of the texts in it. -/
theorem countsBreaks (settings : GeneratorSettings) (t : Table) : CountsBreaks settings t := by
  have hcount : lineBreaks (ofTable settings t).contents =
      Entity.frameBreaks (Entity.ofTable settings t).imports.length t.ownColumns.length
          t.referenceColumns.length
        + (Entity.ofTable settings t).broughtBreaks := by
    show lineBreaks (Entity.ofTable settings t).source = _
    rw [Entity.lineBreaks_source, Entity.sum_length_lines_fields, Entity.length_fields,
      Entity.frameBreaks]
  refine ⟨hcount, ?_⟩
  rw [hcount, Nat.add_eq_left, Entity.broughtBreaks_eq_zero_iff]

end EntityFile

/-! ## A line that a name adds -/

/-- A table with one column, of the given name. -/
def Table.ofColumnName (name : String) : Table :=
  { name := "notes"
    columns := [⟨name, "text", none, false, none, "text"⟩]
    primaryKey := []
    foreignKeys := []
    enumLabels := EnumLabels.empty }

/-- The name of a column is written twice: in its decorator and as the key of its property. So each
line break of it counts twice beside the eight of the frame. -/
theorem Table.lineBreaks_ofColumnName (name : String) :
    lineBreaks (EntityFile.ofTable .defaults (.ofColumnName name)).contents =
      8 + 2 * lineBreaks name := by
  have hfields : (Entity.ofTable .defaults (.ofColumnName name)).fields =
      [.value name (.ofNative "text") false none none] := rfl
  have himports : (Entity.ofTable .defaults (.ofColumnName name)).imports = [] := rfl
  have htable : lineBreaks (Entity.ofTable .defaults (.ofColumnName name)).table = 0 :=
    (by decide : lineBreaks "notes" = 0)
  have hclass : lineBreaks (Entity.ofTable .defaults (.ofColumnName name)).className = 0 :=
    Naming.lineBreaks_className "notes"
  show lineBreaks (Entity.ofTable .defaults (.ofColumnName name)).source = _
  rw [Entity.lineBreaks_source, Entity.broughtBreaks, hfields, himports, htable, hclass]
  simp only [List.map_cons, List.map_nil, List.sum_cons, List.sum_nil, Field.broughtBreaks,
    ColumnType.lineBreaks_storage, ColumnType.lineBreaks_script,
    (by decide : lineBreaks "text" = 0), Field.lines, Option.toList_none, List.length_cons,
    List.length_nil]
  omega

/-- **The line breaks of a file are no matter of numbers alone**: a column whose name is `a`, a line
feed and `b` makes for two lines more than a column of the name `ab`. -/
theorem EntityFile.not_counted_by_numbers :
    ¬ ∀ (settings : GeneratorSettings) (t u : Table),
      (Entity.ofTable settings t).imports.length = (Entity.ofTable settings u).imports.length →
      t.ownColumns.length = u.ownColumns.length →
      t.referenceColumns.length = u.referenceColumns.length →
      lineBreaks (ofTable settings t).contents = lineBreaks (ofTable settings u).contents := by
  intro h
  have hbroken := h .defaults (.ofColumnName "a\nb") (.ofColumnName "ab") rfl rfl rfl
  rw [Table.lineBreaks_ofColumnName, Table.lineBreaks_ofColumnName] at hbroken
  exact absurd hbroken (by decide)

end CatalogEntities
