import CatalogEntities.Proofs.Dictionary
import CatalogEntities.Proofs.Entity.Fields
import CatalogEntities.Proofs.Text.Pieces

/-!
# `Proofs/Entity/Labels.lean` — labels are kept in the order of their rows

The labels of all enumeration columns of a table come as one list of rows, each with a column and a
label. They are pushed one by one into a dictionary that is ordered by the names of the columns, so
rows of different columns do not stay together as they came. What stays is said by `Collects`: each
column has the labels of its rows, in their order, and a column without rows has none. One push
keeps it (`Collects.push`), so any number of pushes does, whatever was collected before them.

Labels that collect the same rows are the same, so everything else is read off the rows alone. In
particular two lists of rows give the same labels exactly if one is the other with rows of different
columns in other places (`Reordered`).

The order of the labels of one column is data: it is the order in which the type was declared, and
it is seen in the type of the property and in the list of the decorator. The order in which columns
come is not, as no row of the query says anything about the columns between its own. `Reordered` has
just this freedom and no more, one exchange of neighbours at a time, and `Reordered.of_labelsOf_eq`
shows that exchanges are enough.
-/

set_option autoImplicit false

namespace CatalogEntities

open Text

namespace EnumLabels

/-- The labels of a column in some rows, in the order of the rows. This is the specification that
the dictionary is compared with: it looks at rows only. -/
def labelsOf (rows : List (String × String)) (column : String) : List String :=
  (rows.filter (·.1 = column)).map Prod.snd

/-- Rows pushed one by one onto labels that there are, as the loop over the result of the query
does (`load_enum_labels`). -/
def pushAll (labels : EnumLabels) (rows : List (String × String)) : EnumLabels :=
  rows.foldl (fun labels row => labels.push row.1 row.2) labels

variable {rows others : List (String × String)} {labels : EnumLabels} {column : String}

theorem labelsOf_append (rows more : List (String × String)) (column : String) :
    labelsOf (rows ++ more) column = labelsOf rows column ++ labelsOf more column := by
  rw [labelsOf, List.filter_append, List.map_append]
  rfl

theorem labelsOf_cons (row : String × String) (rows : List (String × String)) (column : String) :
    labelsOf (row :: rows) column =
      if row.1 = column then row.2 :: labelsOf rows column else labelsOf rows column := by
  by_cases h : row.1 = column
  · rw [if_pos h, labelsOf, List.filter_cons_of_pos (by simpa using h)]
    rfl
  · rw [if_neg h, labelsOf, List.filter_cons_of_neg (by simpa using h)]
    rfl

theorem labelsOf_eq_nil_iff : labelsOf rows column = [] ↔ ∀ row ∈ rows, row.1 ≠ column := by
  simp [labelsOf, List.filter_eq_nil_iff]

/-! ## What labels collect -/

/-- **Labels collect rows**: a column has the labels of its rows in their order, if it has rows. It
is a statement about lookups alone, so it does not mention how the dictionary keeps its entries. -/
def Collects (rows : List (String × String)) (labels : EnumLabels) : Prop :=
  ∀ column, labels.get? column =
    if labelsOf rows column = [] then none else some (labelsOf rows column)

theorem collects_empty : Collects [] empty := fun _ => rfl

/-- What a push finds of a column are the labels of its rows so far. -/
theorem Collects.getD_get? (h : Collects rows labels) (column : String) :
    (labels.get? column).getD [] = labelsOf rows column := by
  rw [h column]
  split
  · rename_i hnone
    rw [hnone]
    rfl
  · rfl

/-- **One push collects one more row.** -/
theorem Collects.push (h : Collects rows labels) (row : String × String) :
    Collects (rows ++ [row]) (labels.push row.1 row.2) := by
  intro column
  rw [get?_push, labelsOf_append, labelsOf_cons]
  by_cases hcolumn : column = row.1
  · rw [if_pos hcolumn, if_pos hcolumn.symm, hcolumn, h.getD_get?,
      if_neg (List.append_ne_nil_of_right_ne_nil _ (List.cons_ne_nil _ _))]
    rfl
  · have hother : row.1 ≠ column := fun he => hcolumn he.symm
    rw [if_neg hcolumn, if_neg hother, h column]
    show _ = if labelsOf rows column ++ [] = [] then none else some (labelsOf rows column ++ [])
    rw [List.append_nil]

/-- **Any number of pushes collects as many rows.** By induction on the rows that are still to come,
with those that are collected left free. -/
theorem Collects.pushAll (h : Collects rows labels) (more : List (String × String)) :
    Collects (rows ++ more) (labels.pushAll more) := by
  induction more generalizing rows labels with
  | nil =>
    rw [List.append_nil]
    exact h
  | cons row more ih =>
    rw [List.append_cons]
    exact ih (h.push row)

theorem collects_ofList (rows : List (String × String)) : Collects rows (ofList rows) :=
  collects_empty.pushAll rows

/-- Rows tell the labels that collect them. One direction needs that a dictionary is known by its
lookups, the other that a list of labels is known from what is found. -/
theorem Collects.eq_iff {other : EnumLabels} (h : Collects rows labels)
    (hother : Collects others other) :
    labels = other ↔ ∀ column, labelsOf rows column = labelsOf others column := by
  constructor
  · rintro rfl column
    rw [← h.getD_get?, hother.getD_get?]
  · intro hrows
    have hfind : labels.byColumn = other.byColumn := by
      refine Dictionary.eq_of_find?_eq fun column => ?_
      show labels.get? column = other.get? column
      rw [h column, hother column, hrows column]
    exact congrArg EnumLabels.mk hfind

theorem Collects.get?_eq_some (h : Collects rows labels) (hrow : ∃ row ∈ rows, row.1 = column) :
    labels.get? column = some (labelsOf rows column) := by
  obtain ⟨row, hrow, hname⟩ := hrow
  rw [h column, if_neg fun hnone => labelsOf_eq_nil_iff.1 hnone row hrow hname]

theorem Collects.get?_eq_none_iff (h : Collects rows labels) :
    labels.get? column = none ↔ ∀ row ∈ rows, row.1 ≠ column := by
  rw [h column, ← labelsOf_eq_nil_iff]
  split
  · rename_i hnone
    exact iff_of_true rfl hnone
  · rename_i hsome
    exact iff_of_false (Option.some_ne_none _) hsome

/-- No column is kept with an empty list: a column is entered by its first label. -/
theorem Collects.ne_nil (h : Collects rows labels) {entry : String × List String}
    (hentry : entry ∈ labels.byColumn.entries) : entry.2 ≠ [] := by
  have hget : labels.get? entry.1 = some entry.2 := Dictionary.mem_entries_iff.1 hentry
  rw [h entry.1] at hget
  split at hget
  · exact absurd hget (Option.some_ne_none _).symm
  · rename_i hsome
    rwa [Option.some.inj hget] at hsome

/-- The columns of the dictionary are those of the rows, each once. -/
theorem Collects.names_perm (h : Collects rows labels) :
    labels.byColumn.names.Perm (rows.map Prod.fst).eraseDups := by
  have hnodup : labels.byColumn.names.Nodup :=
    labels.byColumn.pairwise_names.imp fun hlt => String.ne_of_lt hlt
  refine (List.perm_ext_iff_of_nodup hnodup (Entity.nodup_eraseDups _)).2 fun column => ?_
  rw [Dictionary.mem_names_iff, List.mem_eraseDups, List.mem_map, ← Option.ne_none_iff_isSome]
  show labels.get? column ≠ none ↔ _
  rw [Ne, h.get?_eq_none_iff]
  simp

theorem Collects.size_eq (h : Collects rows labels) :
    labels.size = (rows.map Prod.fst).eraseDups.length := by
  rw [← h.names_perm.length_eq, Dictionary.names, List.length_map]
  rfl

theorem Collects.isEmpty_iff (h : Collects rows labels) : labels.isEmpty = true ↔ rows = [] := by
  have hempty : labels.isEmpty = true ↔ labels.size = 0 := by
    rw [isEmpty, size, List.isEmpty_iff, List.length_eq_zero_iff]
  rw [hempty, h.size_eq, List.length_eq_zero_iff]
  cases rows with
  | nil => exact iff_of_true rfl rfl
  | cons row rows => simp [List.eraseDups_cons]

/-! ## Rows in another order -/

/-- **The same rows in another order**, where those of one column stand as they stood. Rows that are
equal do not count as one: each of them is there in both lists. -/
inductive Reordered : List (String × String) → List (String × String) → Prop
  | nil : Reordered [] []
  | cons (row : String × String) {rows others : List (String × String)}
      (h : Reordered rows others) : Reordered (row :: rows) (row :: others)
  /-- Rows of different columns change places. -/
  | swap {row other : String × String} (h : row.1 ≠ other.1) (rows : List (String × String)) :
      Reordered (row :: other :: rows) (other :: row :: rows)
  | trans {rows others more : List (String × String)} (h : Reordered rows others)
      (hmore : Reordered others more) : Reordered rows more

theorem Reordered.refl : ∀ rows, Reordered rows rows
  | [] => .nil
  | row :: rows => .cons row (.refl rows)

/-- Exchanging rows of different columns leaves the labels of every column as they are. -/
theorem Reordered.labelsOf_eq (h : Reordered rows others) (column : String) :
    labelsOf rows column = labelsOf others column := by
  induction h with
  | nil => rfl
  | cons row _ ih => rw [labelsOf_cons, labelsOf_cons, ih]
  | @swap row other h rows =>
    rw [labelsOf_cons, labelsOf_cons, labelsOf_cons, labelsOf_cons]
    by_cases hrow : row.1 = column
    · have hother : other.1 ≠ column := fun he => h (hrow.trans he.symm)
      rw [if_pos hrow, if_neg hother, if_neg hother, if_pos hrow]
    · simp only [if_neg hrow]
  | trans _ _ ih ihmore => exact ih.trans ihmore

/-- A row goes to the front, past rows of other columns. -/
theorem Reordered.front {row : String × String} {before : List (String × String)}
    (h : ∀ other ∈ before, other.1 ≠ row.1) (after : List (String × String)) :
    Reordered (row :: (before ++ after)) (before ++ row :: after) := by
  induction before with
  | nil => exact .refl _
  | cons other before ih =>
    have hne : row.1 ≠ other.1 := (h other List.mem_cons_self).symm
    exact .trans (.swap hne _) (.cons other (ih fun o ho => h o (List.mem_cons_of_mem _ ho)))

/-- The first row of a column, if it has a first label. -/
theorem exists_first_of_labelsOf {label : String} {rest : List String}
    (h : labelsOf rows column = label :: rest) :
    ∃ before after, rows = before ++ (column, label) :: after ∧
      ∀ other ∈ before, other.1 ≠ column := by
  obtain ⟨row, found, hfilter, rfl, -⟩ := List.map_eq_cons_iff.1 h
  obtain ⟨before, after, rfl, hbefore, hname, -⟩ := List.filter_eq_cons_iff.1 hfilter
  obtain rfl : row.1 = column := by simpa using hname
  exact ⟨before, after, rfl, fun other hother => by simpa using hbefore other hother⟩

/-- **Rows with the same labels for every column are the same rows in another order.** The first row
is found in the other list as the first of its column, and brought to the front there. -/
theorem Reordered.of_labelsOf_eq (h : ∀ column, labelsOf rows column = labelsOf others column) :
    Reordered rows others := by
  induction rows generalizing others with
  | nil =>
    cases others with
    | nil => exact .nil
    | cons other others =>
      have hnone := labelsOf_eq_nil_iff.1 (h other.1).symm other List.mem_cons_self
      exact absurd rfl hnone
  | cons row rows ih =>
    have hfirst : labelsOf others row.1 = row.2 :: labelsOf rows row.1 := by
      rw [← h, labelsOf_cons, if_pos rfl]
    obtain ⟨before, after, rfl, hbefore⟩ := exists_first_of_labelsOf hfirst
    have hfront : Reordered (row :: (before ++ after)) (before ++ row :: after) :=
      .front hbefore after
    refine .trans (.cons row (ih fun column => ?_)) hfront
    -- the first row is gone from both sides, so the labels of its column are those of the rest
    have hlabels := (h column).trans (hfront.labelsOf_eq column).symm
    rw [labelsOf_cons, labelsOf_cons] at hlabels
    split at hlabels
    · exact (List.cons.inj hlabels).2
    · exact hlabels

/-- **What reordering is**, said by columns. -/
theorem reordered_iff :
    Reordered rows others ↔ ∀ column, labelsOf rows column = labelsOf others column :=
  ⟨Reordered.labelsOf_eq, Reordered.of_labelsOf_eq⟩

end EnumLabels

/-! ## The type of a column with labels -/

/-- The text of a field stands in the source text of its entity. -/
theorem Entity.exists_source_of_mem {e : Entity} {f : Field} (h : f ∈ e.fields) :
    ∃ before after, e.source = before ++ f.source ++ after := by
  have hpiece : f.source.toList ∈ (e.fields.map Field.source).map String.toList :=
    List.mem_map_of_mem (List.mem_map_of_mem h)
  obtain ⟨before, after, hfields⟩ := exists_intercalate_of_mem "\n".toList hpiece
  refine ⟨String.join (e.headLines.map (· ++ "\n")) ++ String.ofList before,
    String.ofList after ++ "\x7d\n", ?_⟩
  apply String.toList_injective
  unfold source
  simp only [String.toList_append, String.toList_intercalate, String.toList_ofList, hfields,
    List.append_assoc]

namespace Field

/-- The union of the labels of a column, as a property type: the quoted labels with bars between
them. -/
def union (labels : List String) : String := " | ".intercalate (labels.map doubleQuoted)

/-- The declaration of a choice field stands on the last of its lines. -/
theorem source_choice (column : String) (labels : List String) (nullable : Bool) :
    ∃ decorator, (choice column labels nullable).source =
      decorator ++ ("\n  " ++ declaration column (orNull (union labels) nullable) ++ "\n") := by
  -- the line feed of the decorator and the indentation of the declaration are written as one
  have hlines : ∀ decorator script : String,
      String.join ([decorator, script].map fun line => "  " ++ line ++ "\n") =
        "  " ++ decorator ++ ("\n  " ++ script ++ "\n") := by
    intro decorator script
    apply String.toList_injective
    simp only [String.toList_join, List.map_cons, List.map_nil, List.flatMap_cons,
      List.flatMap_nil, String.toList_append, List.append_assoc, List.append_nil]
    rfl
  exact ⟨_, hlines _ _⟩

end Field

namespace Table

variable {t : Table} {c : Column} {rows : List (String × String)}

/-- **A column with labels becomes a choice of its labels**, in the order of their rows. -/
theorem choice_mem_fields (h : EnumLabels.Collects rows t.enumLabels) (hc : c ∈ t.otherColumns)
    (hrow : ∃ row ∈ rows, row.1 = c.name) (settings : GeneratorSettings) :
    Field.choice c.name (EnumLabels.labelsOf rows c.name) c.isNullable ∈
      (Entity.ofTable settings t).fields := by
  have hfield : t.otherField c =
      .choice c.name (EnumLabels.labelsOf rows c.name) c.isNullable := by
    rw [otherField, h.get?_eq_some hrow]
  rw [Entity.fields_ofTable, ← hfield]
  exact List.mem_append_left _ (List.mem_append_right _ (List.mem_map_of_mem hc))

end Table

namespace EnumLabels

/-- **An ordered multimap** of rows: what its labels answer, and when two of them are the same. The
clauses are those of the operations that the program has on labels, and at the end what a file shows
of them. -/
structure IsMultimap (rows : List (String × String)) (labels : EnumLabels) : Prop where
  /-- A column with rows has their labels, in the order of the rows. -/
  found : ∀ column, (∃ row ∈ rows, row.1 = column) →
    labels.get? column = some (labelsOf rows column)
  /-- A column is not found exactly if it has no rows, -/
  notFound : ∀ column, labels.get? column = none ↔ ∀ row ∈ rows, row.1 ≠ column
  /-- and so no column is found with no labels. -/
  nonempty : ∀ entry ∈ labels.byColumn.entries, entry.2 ≠ []
  /-- There are as many columns as the rows have different ones. -/
  size : labels.size = (rows.map Prod.fst).eraseDups.length
  /-- There are none exactly if there are no rows. -/
  isEmpty : labels.isEmpty = true ↔ rows = []
  /-- Other rows give the same labels, in whatever way these are built, exactly if each column has
  the same labels in the same order, -/
  same : ∀ first others, (ofList first).pushAll others = labels ↔
    ∀ column, labelsOf (first ++ others) column = labelsOf rows column
  /-- and so exactly if they are the same rows, those of different columns in any order. -/
  reordered : ∀ first others, (ofList first).pushAll others = labels ↔
    Reordered (first ++ others) rows
  /-- The type of a column that is neither key nor reference is the union of its labels. -/
  united : ∀ (settings : GeneratorSettings) (t : Table) (c : Column), t.enumLabels = labels →
    c ∈ t.otherColumns → (∃ row ∈ rows, row.1 = c.name) →
      ∃ before after, (EntityFile.ofTable settings t).contents =
        before ++ ("\n  " ++ Field.declaration c.name
          (Field.orNull (Field.union (labelsOf rows c.name)) c.isNullable) ++ "\n") ++ after

/-- **Labels are an ordered multimap of their rows**, whether these are collected at once or some of
them first and the others pushed one by one. -/
theorem isMultimap (first rows : List (String × String)) :
    IsMultimap (first ++ rows) ((ofList first).pushAll rows) := by
  have hcollects : Collects (first ++ rows) ((ofList first).pushAll rows) :=
    (collects_ofList first).pushAll rows
  have hsame : ∀ first' others, (ofList first').pushAll others = (ofList first).pushAll rows ↔
      ∀ column, labelsOf (first' ++ others) column = labelsOf (first ++ rows) column :=
    fun first' others => ((collects_ofList first').pushAll others).eq_iff hcollects
  exact
    { found := fun column => hcollects.get?_eq_some
      notFound := fun column => hcollects.get?_eq_none_iff
      nonempty := fun entry => hcollects.ne_nil
      size := hcollects.size_eq
      isEmpty := hcollects.isEmpty_iff
      same := hsame
      reordered := fun first' others => (hsame first' others).trans reordered_iff.symm
      -- the field is among those of the entity, its block in the file, its declaration in the block
      united := by
        intro settings t c hlabels hc hrow
        have hmem := Table.choice_mem_fields (hlabels ▸ hcollects) hc hrow settings
        obtain ⟨before, after, hsource⟩ := Entity.exists_source_of_mem hmem
        obtain ⟨decorator, hfield⟩ := Field.source_choice c.name
          (labelsOf (first ++ rows) c.name) c.isNullable
        refine ⟨before ++ decorator, after, ?_⟩
        show (Entity.ofTable settings t).source = _
        rw [hsource, hfield]
        simp only [String.append_assoc] }

/-! ### Rows of two columns -/

/-- Tickets with a priority and a kind. -/
def tickets : Table :=
  { name := "tickets"
    columns :=
      [ ⟨"kind", "USER-DEFINED", none, false, none, "ticket_kind"⟩,
        ⟨"priority", "USER-DEFINED", none, true, none, "ticket_priority"⟩ ]
    primaryKey := ["id"]
    foreignKeys := [⟨"owner_id", "users", "id"⟩]
    enumLabels := (ofList [("priority", "low"), ("kind", "bug")]).pushAll [("priority", "high")] }

/-- The kind stands between the priorities. It does not get into their union, and may as well stand
in front of them. -/
theorem isMultimap_tickets :
    tickets.columns[1] ∈ tickets.otherColumns ∧
      (∃ before after, (EntityFile.ofTable .defaults tickets).contents =
        before ++ "\n  priority: \"low\" | \"high\" | null;\n" ++ after) ∧
      Reordered [("kind", "bug"), ("priority", "low"), ("priority", "high")]
        [("priority", "low"), ("kind", "bug"), ("priority", "high")] ∧
      tickets.enumLabels =
        ofList [("kind", "bug"), ("priority", "low"), ("priority", "high")] := by
  have hmultimap := isMultimap [("priority", "low"), ("kind", "bug")] [("priority", "high")]
  have hcolumn : tickets.columns[1] ∈ tickets.otherColumns := by decide
  have hreordered : Reordered [("kind", "bug"), ("priority", "low"), ("priority", "high")]
      [("priority", "low"), ("kind", "bug"), ("priority", "high")] :=
    .swap (by decide) [("priority", "high")]
  refine ⟨hcolumn, ?_, hreordered, ?_⟩
  · have hlabels : labelsOf [("priority", "low"), ("kind", "bug"), ("priority", "high")]
        "priority" = ["low", "high"] := by decide
    have htype : "\n  priority: \"low\" | \"high\" | null;\n" =
        "\n  " ++ Field.declaration "priority" (Field.orNull (Field.union ["low", "high"]) true) ++
          "\n" := by decide
    rw [htype, ← hlabels]
    exact hmultimap.united .defaults tickets tickets.columns[1] rfl hcolumn
      ⟨("priority", "low"), List.mem_cons_self, rfl⟩
  · exact ((hmultimap.reordered [] _).2 hreordered).symm

end EnumLabels

end CatalogEntities
