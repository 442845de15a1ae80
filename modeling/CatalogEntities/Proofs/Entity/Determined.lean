import CatalogEntities.Proofs.Entity.Reader

/-!
# `Proofs/Entity/Determined.lean` — an entity file tells its entity

Two tables have the same entity file exactly when they have the same name and the same is told of
their fields (`EntityFile.contents_eq_iff`). One direction is `Entity.ofTable_eq_ofEmitted`: nothing
else goes into a file. For the other the file is read: the lines up to the first empty one are
passed over, the next tells the name, and the blocks between the empty lines after the class line
tell the fields.

The reader takes lines for what they are, so the texts that were written must not have line feeds
of their own. Apart from that they may be anything: quotes, backslashes, commas, the text of
another decorator.

Imports are passed over without being read, although they are made of the same relations. They tell
less than the fields do, since a class that is referred to twice is imported once. The suffix of
files is passed over with them, and it must be the same for both tables anyway, as the settings are.
-/

set_option autoImplicit false

namespace CatalogEntities

open CatalogEntities.Text

namespace Entity

/-! ## The reader -/

/-- Reads the name of the table from the decorator of the class. -/
def readName? (line : List Char) : Option String :=
  ((after? "@Entity(" line).bind (readQuoted '\'')).map fun literal => String.ofList literal.1

/-- Reads fields from their lines, with empty lines between them. Every block is read on its own, so
one that cannot be read fails the whole. -/
def readFields? (lines : List (List Char)) : Option (List EmittedField) :=
  ((lines.splitOn []).filter (· ≠ [])).mapM fun block => EmittedField.read? (block.map (·.drop 2))

/-- **Reads an entity file**: the name of its table and what it tells of the fields. The last two
lines that are left are the brace and what stands behind the last line feed, which is nothing. -/
def read? (text : List Char) : Option (String × List EmittedField) :=
  match ((text.splitOn '\n').drop 2).dropWhile (· ≠ []) with
  | _ :: decorator :: _ :: body => do
      let name ← readName? decorator
      let fields ← readFields? body.dropLast.dropLast
      return (name, fields)
  | _ => none

/-! ## The round trip -/

theorem readName?_decorator (name : String) :
    readName? ("@Entity(" ++ singleQuoted name ++ ")").toList = some name := by
  unfold readName?
  rw [String.toList_append, String.toList_append, List.append_assoc, after?_append,
    Option.bind_some, toList_singleQuoted, readQuoted_quoted (by decide), Option.map_some,
    String.ofList_toList]

/-- Reading each of some written things gives them back. -/
theorem mapM_map_eq_some {α β : Type} (write : α → β) {read : β → Option α} :
    ∀ {xs : List α}, (∀ x ∈ xs, read (write x) = some x) → (xs.map write).mapM read = some xs := by
  intro xs
  induction xs with
  | nil => exact fun _ => rfl
  | cons x xs ih =>
    intro h
    rw [List.map_cons, List.mapM_cons, h x List.mem_cons_self,
      ih fun y hy => h y (List.mem_cons_of_mem _ hy)]
    rfl

/-- A field has lines, and none of them is empty. -/
theorem textLines_field (f : EmittedField) (referenceSuffix : String) :
    (f.field referenceSuffix).textLines ≠ [] ∧ [] ∉ (f.field referenceSuffix).textLines := by
  refine ⟨?_, fun h => ?_⟩
  · cases f <;> exact List.cons_ne_nil _ _
  · obtain ⟨line, -, hline⟩ := List.mem_map.1 h
    exact absurd hline (List.cons_ne_nil _ _)

/-- The fields are read back from their lines. No block has an empty line inside, so cutting at the
empty lines gives the blocks. -/
theorem readFields?_lines (fields : List EmittedField) (referenceSuffix : String) :
    readFields? ([[]].intercalate
      ((fields.map (EmittedField.field referenceSuffix)).map Field.textLines)) = some fields := by
  have hblock : ∀ f ∈ fields, EmittedField.read?
      (((EmittedField.field referenceSuffix f).textLines).map (·.drop 2)) = some f := by
    intro f _
    rw [Field.textLines, List.map_map]
    exact f.read?_lines referenceSuffix
  unfold readFields?
  cases fields with
  | nil => rfl
  | cons f fields =>
    have hlines : ∀ block ∈ ((f :: fields).map (EmittedField.field referenceSuffix)).map
        Field.textLines, block ≠ [] ∧ [] ∉ block := by
      intro block hblock
      obtain ⟨_, hfield, rfl⟩ := List.mem_map.1 hblock
      obtain ⟨g, -, rfl⟩ := List.mem_map.1 hfield
      exact textLines_field g referenceSuffix
    -- cutting undoes joining, no block is dropped for being empty, and each is read back
    rw [List.splitOn_intercalate [] (fun block h => (hlines block h).2) (by simp),
      List.filter_eq_self.2 fun block h => by simpa using (hlines block h).1, List.map_map]
    exact mapM_map_eq_some (Field.textLines ∘ EmittedField.field referenceSuffix) hblock

/-- The classes that an entity imports are targets of its relations. -/
theorem mem_related {className target : String} {relations : List Relation}
    (h : target ∈ related className relations) : ∃ r ∈ relations, r.target = target :=
  List.mem_map.1 (List.mem_of_mem_filter (List.mem_eraseDups.1 h))

theorem oneLine_importLine {moduleSuffix name : String} (hsuffix : OneLine moduleSuffix)
    (hname : OneLine name) : OneLine (importLine moduleSuffix name) := by
  have hmodule : OneLine ("./" ++ name ++ moduleSuffix) :=
    (OneLine.append (by decide) hname).append hsuffix
  exact (((OneLine.append (by decide) hname).append (by decide)).append
    hmodule.singleQuoted).append (by decide)

theorem oneLine_moduleSuffixOf {fileSuffix : String} (h : OneLine fileSuffix) :
    OneLine (moduleSuffixOf fileSuffix) := by
  unfold moduleSuffixOf
  cases hrest : withoutEnding? ".ts" fileSuffix with
  | none => exact h
  | some rest => exact h.of_withoutEnding? hrest

/-- The line of an import is not empty. -/
theorem toList_importLine_ne_nil (moduleSuffix name : String) :
    (importLine moduleSuffix name).toList ≠ [] := by
  unfold importLine
  simp only [String.toList_append, List.append_assoc]
  exact List.cons_ne_nil _ _

/-- The lines in front of the fields: two that are fixed, the imports, and those of the class. -/
theorem oneLine_headLines {e : Entity} (htable : OneLine e.table) (hclass : OneLine e.className)
    (hsuffix : OneLine e.moduleSuffix) (himports : ∀ name ∈ e.imports, OneLine name) :
    ∀ line ∈ e.headLines, OneLine line := by
  intro line hline
  rcases List.mem_append.1 hline with hline | hline
  · rcases List.mem_append.1 hline with hline | hline
    · exact (by decide : ∀ line ∈ [header, decoratorImport], OneLine line) line hline
    · obtain ⟨name, hname, rfl⟩ := List.mem_map.1 hline
      exact oneLine_importLine hsuffix (himports name hname)
  · rcases List.mem_cons.1 hline with rfl | hline
    · decide
    rcases List.mem_cons.1 hline with rfl | hline
    · exact (OneLine.append (by decide) htable.singleQuoted).append (by decide)
    · rw [List.mem_singleton.1 hline]
      exact (OneLine.append (by decide) hclass).append (by decide)

theorem newline_not_mem_bodyLines {e : Entity}
    (h : ∀ f ∈ e.fields, ∀ line ∈ f.lines, OneLine line) :
    ∀ line ∈ e.bodyLines, '\n' ∉ line := by
  intro line hline
  rcases List.mem_append.1 hline with hline | hline
  · rcases mem_intercalate hline with hsep | ⟨block, hblock, hline⟩
    · rw [List.mem_singleton.1 hsep]
      exact List.not_mem_nil
    · obtain ⟨f, hf, rfl⟩ := List.mem_map.1 hblock
      obtain ⟨text, htext, rfl⟩ := List.mem_map.1 hline
      have hnone := h f hf text htext
      simpa [OneLine] using hnone
  · rw [List.mem_singleton.1 hline]
    decide

section

variable {settings : GeneratorSettings} {name : String} {fields : List EmittedField}

/-- **The lines of an entity have no line feed** if the texts that it is made of have none. The
condition is on what is told of the fields and not on the table, so that texts that enter no file
are free. -/
theorem newline_not_mem_textLines (hsuffix : OneLine settings.fileSuffix) (hname : OneLine name)
    (hfields : ∀ f ∈ fields, ∀ s ∈ f.texts, OneLine s) :
    ∀ line ∈ (ofEmitted settings name fields).textLines, '\n' ∉ line := by
  -- the classes that are imported are targets of relations, which are among the texts of the fields
  have himports : ∀ target ∈ (ofEmitted settings name fields).imports, OneLine target := by
    intro target htarget
    obtain ⟨r, hr, rfl⟩ := mem_related htarget
    obtain ⟨f, hf, hr⟩ := List.mem_filterMap.1 hr
    cases f with
    | relation column target =>
      obtain rfl := Option.some.inj hr
      exact hfields _ hf target (by simp [EmittedField.texts])
    | key | choice | value => exact absurd hr (by simp [EmittedField.relation?])
  have hbody : ∀ f ∈ (ofEmitted settings name fields).fields, ∀ line ∈ f.lines, OneLine line := by
    intro f hf
    obtain ⟨g, hg, rfl⟩ := List.mem_map.1 hf
    exact EmittedField.oneLine_lines (hfields g hg) settings.referenceSuffix
  have hclass : OneLine (ofEmitted settings name fields).className := hname.className
  have hmodule : OneLine (ofEmitted settings name fields).moduleSuffix :=
    oneLine_moduleSuffixOf hsuffix
  have hhead : ∀ line ∈ (ofEmitted settings name fields).headLines, OneLine line :=
    oneLine_headLines hname hclass hmodule himports
  intro line hline
  rcases List.mem_append.1 hline with hline | hline
  · obtain ⟨text, htext, rfl⟩ := List.mem_map.1 hline
    exact hhead text htext
  · exact newline_not_mem_bodyLines hbody line hline

/-- The lines of an entity file, one by one. -/
theorem textLines_ofEmitted (settings : GeneratorSettings) (name : String)
    (fields : List EmittedField) :
    (ofEmitted settings name fields).textLines ++ [[]] =
      header.toList :: decoratorImport.toList ::
        ((ofEmitted settings name fields).imports.map
            (String.toList ∘ importLine (moduleSuffixOf settings.fileSuffix)) ++
          ([] :: ("@Entity(" ++ singleQuoted name ++ ")").toList ::
            ("export class " ++ Naming.className name ++ " \x7b").toList ::
              ([[]].intercalate ((ofEmitted settings name fields).fields.map Field.textLines) ++
                [['}'], []]))) := by
  unfold textLines headLines bodyLines
  simp only [List.map_append, List.map_cons, List.map_map, List.append_assoc, List.cons_append,
    List.nil_append, List.map_nil]
  rfl

/-- **An entity file is read back.** The reader is followed line by line along
`textLines_ofEmitted`. -/
theorem read?_source (hsuffix : OneLine settings.fileSuffix) (hname : OneLine name)
    (hfields : ∀ f ∈ fields, ∀ s ∈ f.texts, OneLine s) :
    read? (ofEmitted settings name fields).source.toList = some (name, fields) := by
  have himports : ∀ line ∈ (ofEmitted settings name fields).imports.map
      (String.toList ∘ importLine (moduleSuffixOf settings.fileSuffix)),
      decide (line ≠ []) = true := by
    intro line hline
    obtain ⟨target, -, rfl⟩ := List.mem_map.1 hline
    exact decide_eq_true (toList_importLine_ne_nil _ target)
  have hbody : ∀ lines : List (List Char), (lines ++ [['}'], []]).dropLast.dropLast = lines := by
    intro lines
    simp
  have hwritten : (ofEmitted settings name fields).fields =
      fields.map (EmittedField.field settings.referenceSuffix) := rfl
  unfold read?
  -- the first empty line is the one behind the imports, none of which is empty
  rw [splitOn_source (newline_not_mem_textLines hsuffix hname hfields), textLines_ofEmitted,
    List.drop_succ_cons, List.drop_succ_cons, List.drop_zero,
    List.dropWhile_append_of_pos himports, List.dropWhile_cons_of_neg (by simp)]
  dsimp only
  rw [readName?_decorator, hbody, hwritten, readFields?_lines]
  rfl

end

end Entity

/-- **An entity file tells the name of its table and all that is told of the fields**, and
nothing else decides about it. -/
theorem EntityFile.contents_eq_iff {settings : GeneratorSettings} {t₁ t₂ : Table}
    (hsuffix : OneLine settings.fileSuffix) (h₁ : t₁.OneLine) (h₂ : t₂.OneLine) :
    (ofTable settings t₁).contents = (ofTable settings t₂).contents ↔
      t₁.name = t₂.name ∧ t₁.emitted settings = t₂.emitted settings := by
  show (Entity.ofTable settings t₁).source = (Entity.ofTable settings t₂).source ↔ _
  rw [Entity.ofTable_eq_ofEmitted, Entity.ofTable_eq_ofEmitted]
  constructor
  · intro h
    have hread₁ := Entity.read?_source hsuffix h₁.name (h₁.emitted settings)
    have hread₂ := Entity.read?_source hsuffix h₂.name (h₂.emitted settings)
    rw [h, hread₂] at hread₁
    obtain ⟨hname, hfields⟩ := Prod.mk.inj (Option.some.inj hread₁)
    exact ⟨hname.symm, hfields.symm⟩
  · rintro ⟨hname, hfields⟩
    rw [hname, hfields]

/-- A table whose texts hold every character that the format gives a meaning to: both quotes, the
backslash, braces, a comma. Its only column has the given default. -/
def Table.odd (default : String) : Table :=
  { name := "o'clock"
    columns := [⟨"it's", "a\\b", some 7, true, some default, ""⟩]
    primaryKey := []
    foreignKeys := [⟨"by\"id", "x_\x7d", "id"⟩]
    enumLabels := EnumLabels.ofList [("mood", "say \"hi\", ok")] }

/-- Two defaults that are written alike apart from their quotes make different files. -/
theorem EntityFile.contents_odd_ne :
    (Text.OneLine ".entity.ts" ∧ (Table.odd "now()").OneLine ∧ (Table.odd "'now()'").OneLine) ∧
      (ofTable .defaults (Table.odd "now()")).contents ≠
        (ofTable .defaults (Table.odd "'now()'")).contents := by
  have hsuffix : Text.OneLine GeneratorSettings.defaults.fileSuffix := by decide
  have h₁ : (Table.odd "now()").OneLine := by decide
  have h₂ : (Table.odd "'now()'").OneLine := by decide
  refine ⟨⟨hsuffix, h₁, h₂⟩, fun h => ?_⟩
  exact absurd ((contents_eq_iff hsuffix h₁ h₂).1 h).2 (by decide)

end CatalogEntities
