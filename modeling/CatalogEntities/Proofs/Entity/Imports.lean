import CatalogEntities.Proofs.Entity.Determined
import CatalogEntities.Proofs.Text.Reader
import Mathlib.Data.List.Forall2

/-!
# `Proofs/Entity/Imports.lean` — the imports of an entity file

An entity file imports the decorators and then, once each, the classes that its relations lead to.
`Entity.ImportsRelated` says so of the text: which lines are imports, what each of them imports and
from which module, and in which order they stand.

A line imports what stands between its braces. That this and the module are one thing and not
several needs proof, since a class name may hold anything that a table's name does: the literal of
the module is found from behind (`Text.append_quoted_inj`).

What an import line is can only be told from lines, so texts with line feeds are kept out there.
And the decorators bind names too: a class that is called like one of them is imported under a name
that is taken. Nothing is done about that.
-/

set_option autoImplicit false

namespace CatalogEntities

open CatalogEntities.Text

namespace Entity

/-- **A line imports names from a module.** The line is compared with the one text that says so, and
the names are joined as they stand: a name with a comma in it looks like two. -/
def Imports (line : String) (names : List String) (module : String) : Prop :=
  line = "import \x7b " ++ ", ".intercalate names ++ " \x7d from " ++ singleQuoted module ++ ";"

instance (line : String) (names : List String) (module : String) :
    Decidable (Imports line names module) :=
  inferInstanceAs (Decidable (_ = _))

/-- A line binds a name: it is among those that the line imports. -/
def Binds (line name : String) : Prop := ∃ names module, Imports line names module ∧ name ∈ names

/-- Whether a line is an import. Statements begin at the start of a line in these files, and members
of a class are indented, so the first word decides. -/
def isImport (line : List Char) : Bool := "import ".toList.isPrefixOf line

/-- **The lines of a file that are imports**, in their order. -/
def importLines (text : String) : List String :=
  ((text.toList.splitOn '\n').filter isImport).map String.ofList

/-- The imports of related classes in a table's entity file. -/
def relatedImports (settings : GeneratorSettings) (t : Table) : List String :=
  (ofTable settings t).imports.map (importLine (ofTable settings t).moduleSuffix)

/-- **The module of a table's entity file**: the name of the file, without the `.ts` that it has
from the suffix. A suffix that ends in anything else is kept whole, and with it the module names the
file exactly. -/
def IsModuleOf (suffix table module : String) : Prop :=
  (∀ stem, suffix = stem ++ ".ts" → Naming.fileName table suffix = module ++ ".ts") ∧
    ((∀ stem, suffix ≠ stem ++ ".ts") → Naming.fileName table suffix = module)

/-! ## What one line imports -/

/-- What the program writes for a related class: one name, from a module in the same directory. -/
theorem imports_importLine (moduleSuffix name : String) :
    Imports (importLine moduleSuffix name) [name] ("./" ++ (name ++ moduleSuffix)) := by
  have hmodule : "./" ++ (name ++ moduleSuffix) = "./" ++ name ++ moduleSuffix :=
    String.append_assoc.symm
  rw [Imports, String.intercalate_singleton, importLine, hmodule]

/-- **What a line imports is one thing**: the text between its braces, and its module. -/
theorem Imports.unique {line : String} {names others : List String} {module other : String}
    (h : Imports line names module) (hother : Imports line others other) :
    ", ".intercalate names = ", ".intercalate others ∧ module = other := by
  -- what stands in front of the literal ends in a blank, so the literal is found from behind
  have hchars := congrArg String.toList (h.symm.trans hother)
  simp only [String.toList_append, toList_singleQuoted, List.append_assoc] at hchars
  have hopened : (", ".intercalate names).toList ++
        (" \x7d from".toList ++ ' ' :: quoted '\'' module.toList) =
      (", ".intercalate others).toList ++
        (" \x7d from".toList ++ ' ' :: quoted '\'' other.toList) := by
    have hclosed := List.append_cancel_left hchars
    simp only [← List.append_assoc] at hclosed
    simpa using List.append_cancel_right hclosed
  obtain ⟨hnames, hmodule⟩ := append_quoted_inj (by decide) (by decide) hopened
  exact ⟨String.toList_injective hnames, String.toList_injective hmodule⟩

/-- A text without a comma is no list of several names. This is where a comma in a class name would
do harm: the line that imports it would bind the pieces as well. -/
theorem eq_of_mem_intercalate {name text : String} {names : List String}
    (hcomma : ',' ∉ text.toList) (htext : ", ".intercalate names = text) (h : name ∈ names) :
    name = text := by
  cases names with
  | nil => exact absurd h List.not_mem_nil
  | cons first rest =>
    cases rest with
    | nil =>
      rw [List.mem_singleton.1 h, ← htext, String.intercalate_singleton]
    | cons second rest =>
      refine absurd ?_ hcomma
      rw [← htext, String.intercalate_cons_cons, String.toList_append, String.toList_append]
      exact List.mem_append_left _ (List.mem_append_right _ List.mem_cons_self)

/-! ## Which lines are imports -/

theorem isImport_importLine (moduleSuffix name : String) :
    isImport (importLine moduleSuffix name).toList = true := by
  unfold importLine
  simp only [String.toList_append, List.append_assoc]
  rfl

/-- The lines of the fields begin with blanks, so none of them is an import. -/
theorem isImport_of_mem_bodyLines {e : Entity} {line : List Char} (h : line ∈ e.bodyLines) :
    isImport line = false := by
  rcases List.mem_append.1 h with h | h
  · rcases mem_intercalate h with h | ⟨block, hblock, h⟩
    · rw [List.mem_singleton.1 h]
      rfl
    · obtain ⟨f, -, rfl⟩ := List.mem_map.1 hblock
      obtain ⟨text, -, rfl⟩ := List.mem_map.1 h
      rfl
  · rw [List.mem_singleton.1 h]
    rfl

/-- **The lines of an entity that are imports.** The head is imports, an empty line and the two
lines that open the class, and the body is indented; the three parts are asked one by one. -/
theorem filter_isImport_textLines (e : Entity) :
    e.textLines.filter isImport =
      (decoratorImport :: e.imports.map (importLine e.moduleSuffix)).map String.toList := by
  have himports : ((e.imports.map (importLine e.moduleSuffix)).map String.toList).filter isImport =
      (e.imports.map (importLine e.moduleSuffix)).map String.toList := by
    refine List.filter_eq_self.2 fun line hline => ?_
    obtain ⟨text, htext, rfl⟩ := List.mem_map.1 hline
    obtain ⟨name, -, rfl⟩ := List.mem_map.1 htext
    exact isImport_importLine e.moduleSuffix name
  have hbody : e.bodyLines.filter isImport = [] := by
    refine List.filter_eq_nil_iff.2 fun line hline => ?_
    rw [isImport_of_mem_bodyLines hline]
    exact Bool.false_ne_true
  have hclass : (["", "@Entity(" ++ singleQuoted e.table ++ ")",
      "export class " ++ e.className ++ " \x7b"].map String.toList).filter isImport = [] := by
    simp only [List.map_cons, List.map_nil, String.toList_append]
    rfl
  unfold textLines headLines
  rw [List.filter_append, List.map_append, List.map_append, List.filter_append,
    List.filter_append, himports, hbody, hclass, List.append_nil, List.append_nil]
  rfl

/-- **The import lines of an entity file** are those that it was written with, if no text that
enters the file has a line feed. The default of a key column, say, may have one, as it enters no
file. -/
theorem importLines_contents {settings : GeneratorSettings} {t : Table}
    (hsuffix : OneLine settings.fileSuffix) (hname : OneLine t.name)
    (htexts : ∀ f ∈ t.emitted settings, ∀ text ∈ f.texts, OneLine text) :
    importLines (EntityFile.ofTable settings t).contents =
      decoratorImport :: relatedImports settings t := by
  have hlines : ∀ line ∈ (ofTable settings t).textLines, '\n' ∉ line := by
    rw [ofTable_eq_ofEmitted]
    exact newline_not_mem_textLines hsuffix hname htexts
  show (((ofTable settings t).source.toList.splitOn '\n').filter isImport).map String.ofList = _
  rw [splitOn_source hlines, List.filter_append, filter_isImport_textLines]
  simp only [List.map_append, List.map_map]
  have hback : String.ofList ∘ String.toList = id := funext fun s => String.ofList_toList
  rw [hback, List.map_id]
  exact List.append_nil _

/-- A line of a text is found, whatever text it stands in. So a line feed in a name can bring a line
into a file that is an import, which `importLines_contents` has to exclude. -/
theorem mem_importLines {text before line after : String}
    (htext : text = before ++ "\n" ++ line ++ "\n" ++ after) (hline : OneLine line)
    (himport : isImport line.toList = true) : line ∈ importLines text := by
  have hsplit : text.toList.splitOn '\n' = before.toList.splitOn '\n' ++
      (line.toList :: after.toList.splitOn '\n') := by
    have hchars : text.toList =
        before.toList ++ '\n' :: (line.toList ++ '\n' :: after.toList) := by
      rw [htext]
      simp [String.toList_append]
    rw [hchars, List.splitOn_append_cons_self, List.splitOn_append_cons_self_of_not_mem hline]
  refine List.mem_map.2 ⟨line.toList, List.mem_filter.2 ⟨?_, himport⟩, String.ofList_toList⟩
  rw [hsplit]
  exact List.mem_append_right _ List.mem_cons_self

/-! ## Which classes are imported -/

/-- The classes that a table's relations lead to, without the table's own, each once in the order
in which they come first. -/
def referencedClasses (t : Table) : List String :=
  (((firstOfEachColumn t.foreignKeys).map fun fk => Naming.className fk.refTable).filter
    (· ≠ Naming.className t.name)).eraseDups

/-- What the program collects: classes in the order of the relations, without the table's own. -/
theorem imports_ofTable (settings : GeneratorSettings) (t : Table) :
    (ofTable settings t).imports = referencedClasses t := by
  show related _ ((firstOfEachColumn t.foreignKeys).map _) = _
  rw [related, referencedClasses, List.map_map]
  rfl

theorem relatedImports_eq (settings : GeneratorSettings) (t : Table) :
    relatedImports settings t =
      (referencedClasses t).map (importLine (moduleSuffixOf settings.fileSuffix)) := by
  rw [relatedImports, imports_ofTable]
  rfl

theorem mem_referencedClasses {t : Table} {name : String} :
    name ∈ referencedClasses t ↔
      (∃ fk ∈ firstOfEachColumn t.foreignKeys, Naming.className fk.refTable = name) ∧
        name ≠ Naming.className t.name := by
  rw [referencedClasses, List.mem_eraseDups, List.mem_filter, List.mem_map, decide_eq_true_eq]

theorem nodup_eraseDups {α : Type} [BEq α] [LawfulBEq α] : ∀ xs : List α, xs.eraseDups.Nodup
  | [] => List.nodup_nil
  | x :: xs => by
    have hshorter : (xs.filter fun y => !y == x).length < xs.length + 1 :=
      Nat.lt_succ_of_le (List.length_filter_le _ xs)
    rw [List.eraseDups_cons, List.nodup_cons, List.mem_eraseDups, List.mem_filter]
    refine ⟨fun hmem => ?_, nodup_eraseDups _⟩
    simp at hmem
termination_by xs => xs.length

/-- The path of a related class leads to the module of any table with that class. File names are
made of class names (`file_name`), so the class is all that is needed to find the file. -/
theorem isModuleOf (suffix table : String) :
    IsModuleOf suffix table (Naming.className table ++ moduleSuffixOf suffix) := by
  unfold moduleSuffixOf
  cases hstem : withoutEnding? ".ts" suffix with
  | none =>
    -- nothing was cut off, so the suffix has no such ending
    refine ⟨fun stem hsuffix => ?_, fun _ => rfl⟩
    have hfound : ".ts".toList.isSuffixOf? suffix.toList = some stem.toList := by
      rw [hsuffix, String.toList_append]
      exact List.isSuffixOf?_eq_some_iff_append_eq.2 rfl
    rw [withoutEnding?, hfound] at hstem
    exact absurd hstem (by simp)
  | some stem =>
    have hsuffix : suffix = stem ++ ".ts" := eq_append_of_withoutEnding? hstem
    constructor
    · intro _ _
      rw [Naming.fileName, Option.getD_some, String.append_assoc, ← hsuffix]
    · intro hnone
      exact absurd hsuffix (hnone _)

/-- **Exactly one of some lines imports a name**, and from the given module. The others import it
from nowhere: a second import of a class would bind its name twice. -/
def ImportsOnce (lines : List String) (name module : String) : Prop :=
  ∃ before line after, lines = before ++ line :: after ∧ Imports line [name] module ∧
    ∀ other ∈ before ++ after, ∀ source, ¬ Imports other [name] source

/-- A line imports no class but its own. -/
theorem eq_of_imports_importLine {moduleSuffix own name module : String}
    (h : Imports (importLine moduleSuffix own) [name] module) : own = name := by
  have hnames := ((imports_importLine moduleSuffix own).unique h).1
  rwa [String.intercalate_singleton, String.intercalate_singleton] at hnames

/-- One line for each of some names that are different imports each of them once. -/
theorem importsOnce_map {names : List String} (hnodup : names.Nodup) {name : String}
    (h : name ∈ names) (moduleSuffix : String) :
    ImportsOnce (names.map (importLine moduleSuffix)) name ("./" ++ (name ++ moduleSuffix)) := by
  obtain ⟨before, after, rfl⟩ := List.append_of_mem h
  refine ⟨before.map (importLine moduleSuffix), importLine moduleSuffix name,
    after.map (importLine moduleSuffix), by simp, imports_importLine moduleSuffix name, ?_⟩
  -- the line of another name imports that name
  intro other hother source himports
  rw [← List.map_append] at hother
  obtain ⟨own, hown, rfl⟩ := List.mem_map.1 hother
  rw [eq_of_imports_importLine himports] at hown
  exact (List.nodup_cons.1 (List.perm_middle.nodup_iff.1 hnodup)).1 hown

/-- **A file declares a class**, on a line of its own. This is asked of the text, so that a relation
can be said to resolve by looking into the file that it leads to. -/
def Declares (contents className : String) : Prop :=
  mentions contents ("\nexport class " ++ className ++ " \x7b\n") = true

instance (contents className : String) : Decidable (Declares contents className) :=
  inferInstanceAs (Decidable (_ = true))

/-- What an entity file begins with: its imports, and behind an empty line the class. -/
theorem contents_eq (settings : GeneratorSettings) (t : Table) :
    ∃ fields, (EntityFile.ofTable settings t).contents =
      String.join ((header :: decoratorImport :: relatedImports settings t).map (· ++ "\n"))
        ++ "\n" ++ ("@Entity(" ++ singleQuoted t.name ++ ")"
          ++ "\nexport class " ++ Naming.className t.name ++ " \x7b\n" ++ fields) := by
  refine ⟨"\n".intercalate ((ofTable settings t).fields.map Field.source) ++ "\x7d\n", ?_⟩
  show (ofTable settings t).source = _
  have hhead : (ofTable settings t).headLines =
      (header :: decoratorImport :: relatedImports settings t) ++ ["",
        "@Entity(" ++ singleQuoted t.name ++ ")",
        "export class " ++ Naming.className t.name ++ " \x7b"] := by
    rw [headLines, relatedImports, List.append_assoc]
    rfl
  rw [source, hhead, List.map_append, String.join_append]
  refine String.toList_injective ?_
  simp [String.toList_append]

/-- An entity file declares the class of its table. -/
theorem declares_contents (settings : GeneratorSettings) (t : Table) :
    Declares (EntityFile.ofTable settings t).contents (Naming.className t.name) := by
  obtain ⟨fields, hcontents⟩ := contents_eq settings t
  refine occursIn_iff.2 ⟨(String.join
    ((header :: decoratorImport :: relatedImports settings t).map (· ++ "\n")) ++ "\n"
      ++ ("@Entity(" ++ singleQuoted t.name ++ ")")).toList, fields.toList, ?_⟩
  rw [hcontents]
  simp only [String.toList_append, List.append_assoc]

/-- **The imports of a table's entity file.** What the file begins with holds of every table; what a
reader finds who looks for import lines needs texts without line feeds, and a condition on commas is
left for the clause on what a single line binds. -/
structure ImportsRelated (settings : GeneratorSettings) (t : Table) : Prop where
  /-- The file begins with them. -/
  head : ∃ rest, (EntityFile.ofTable settings t).contents =
    String.join ((header :: decoratorImport :: relatedImports settings t).map (· ++ "\n"))
      ++ "\n" ++ rest
  /-- Nothing else in the file is an import, unless a text that enters the file brings a line feed
  along: the suffix, the table's name, or what a field is written with. -/
  lines : OneLine settings.fileSuffix → OneLine t.name →
    (∀ f ∈ t.emitted settings, ∀ text ∈ f.texts, OneLine text) →
    importLines (EntityFile.ofTable settings t).contents =
      decoratorImport :: relatedImports settings t
  /-- They stand in the order in which the relations first lead to the classes. -/
  order : List.Forall₂ (fun name line => ∃ module, Imports line [name] module)
    (referencedClasses t) (relatedImports settings t)
  /-- The class of a relation is imported once, from the module of the table that it refers to. -/
  related : ∀ fk ∈ firstOfEachColumn t.foreignKeys,
    Naming.className fk.refTable ≠ Naming.className t.name →
      ∃ module, IsModuleOf settings.fileSuffix fk.refTable module ∧
        ImportsOnce (relatedImports settings t) (Naming.className fk.refTable) ("./" ++ module)
  /-- The class itself is not imported. -/
  own : ∀ line ∈ relatedImports settings t, ∀ source,
    ¬ Imports line [Naming.className t.name] source
  /-- A line binds one name, unless a table's name has a comma. -/
  single : (∀ fk ∈ t.foreignKeys, ',' ∉ fk.refTable.toList) →
    ∀ line ∈ relatedImports settings t, ∀ name, Binds line name →
      ∃ source, Imports line [name] source

/-- **Every entity file imports what its relations lead to.** -/
theorem importsRelated (settings : GeneratorSettings) (t : Table) : ImportsRelated settings t where
  head := by
    obtain ⟨fields, hcontents⟩ := contents_eq settings t
    exact ⟨_, hcontents⟩
  lines := importLines_contents
  order := by
    rw [relatedImports_eq, List.forall₂_map_right_iff, List.forall₂_same]
    exact fun name _ => ⟨_, imports_importLine _ name⟩
  related fk hfk hother := by
    refine ⟨_, isModuleOf settings.fileSuffix fk.refTable, ?_⟩
    rw [relatedImports_eq]
    exact importsOnce_map (nodup_eraseDups _) (mem_referencedClasses.2 ⟨⟨fk, hfk, rfl⟩, hother⟩) _
  own line hline source himports := by
    rw [relatedImports_eq] at hline
    obtain ⟨name, hname, rfl⟩ := List.mem_map.1 hline
    exact (mem_referencedClasses.1 hname).2 (eq_of_imports_importLine himports)
  single hcomma line hline name hbinds := by
    obtain ⟨names, source, himports, hmem⟩ := hbinds
    rw [relatedImports_eq] at hline
    obtain ⟨own, hown, rfl⟩ := List.mem_map.1 hline
    obtain ⟨⟨fk, hfk, rfl⟩, -⟩ := mem_referencedClasses.1 hown
    -- a class name has no comma unless the table's has one, and the line imports that name alone
    have hnone : ',' ∉ (Naming.className fk.refTable).toList := fun h =>
      hcomma fk (mem_of_mem_firstOfEachColumn hfk) (Naming.mem_of_mem_className (by decide) h)
    have himport := imports_importLine (moduleSuffixOf settings.fileSuffix)
      (Naming.className fk.refTable)
    have hnames := (himports.unique himport).1
    rw [String.intercalate_singleton] at hnames
    rw [eq_of_mem_intercalate hnone hnames hmem]
    exact ⟨_, himport⟩

end Entity

end CatalogEntities
