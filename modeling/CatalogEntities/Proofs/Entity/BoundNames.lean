import CatalogEntities.Proofs.Entity.Imports
import Mathlib.Data.List.Nodup

/-!
# `Proofs/Entity/BoundNames.lean` — which names an entity file binds twice

A file binds names in three places: it imports the six decorators, imports related classes, and
declares its own. The last two are kept apart, since a class is imported once and never by itself.
Nothing keeps them apart from the decorators, though a class may be called like one of them: a table
`column` is the class `Column` (`Entity.not_bound_once_column`).

So how often a name is bound is the sum of two questions, whether it is a decorator's and whether it
is a class's, and `Entity.bindsNames` says that of every file.

The names are counted and not only compared, since a file that binds a name twice is refused by
whoever compiles it, however the two bindings came about. That no name is bound three times is the
part that holds without a condition; that none is bound twice needs one, and it is stated with the
weakest (`BindsNames.apart`).
-/

set_option autoImplicit false

namespace CatalogEntities.Entity

open CatalogEntities.Text

/-- The names of the decorators, in the order of their import. The import is the same in every file,
whether a file uses all of them or not, so they are bound even where nothing is decorated by
them. -/
def decoratorNames : List String :=
  ["Entity", "PrimaryGeneratedColumn", "PrimaryColumn", "Column", "ManyToOne", "JoinColumn"]

/-- The names of classes that an entity file binds: those it imports, and the one it declares. A
class that refers to itself is not imported. -/
def boundClasses (settings : GeneratorSettings) (t : Table) : List String :=
  (ofTable settings t).imports ++ [(ofTable settings t).className]

/-- **The names that an entity file binds**, one entry for each binding, in the order of the file.
-/
def boundNames (settings : GeneratorSettings) (t : Table) : List String :=
  decoratorNames ++ boundClasses settings t

theorem nodup_decoratorNames : decoratorNames.Nodup := by decide

variable {settings : GeneratorSettings} {t : Table}

/-- **No class is bound twice.** The related classes are collected without repetition, and that of
the table itself is taken out of them. -/
theorem nodup_boundClasses (settings : GeneratorSettings) (t : Table) :
    (boundClasses settings t).Nodup := by
  rw [boundClasses, imports_ofTable]
  apply List.Nodup.append (nodup_eraseDups _) (List.nodup_singleton _)
  intro name himport hown
  rw [List.mem_singleton.1 hown] at himport
  exact (mem_referencedClasses.1 himport).2 rfl

/-- The classes are that of the table, and those of the tables that its references lead to. -/
theorem mem_boundClasses {name : String} :
    name ∈ boundClasses settings t ↔
      name = Naming.className t.name ∨
        ∃ fk ∈ firstOfEachColumn t.foreignKeys, Naming.className fk.refTable = name := by
  have hown : (ofTable settings t).className = Naming.className t.name := rfl
  rw [boundClasses, List.mem_append, List.mem_singleton, hown, imports_ofTable,
    mem_referencedClasses]
  constructor
  · rintro (⟨hreference, -⟩ | h)
    · exact Or.inr hreference
    · exact Or.inl h
  · rintro (h | hreference)
    · exact Or.inr h
    -- a class that is referred to is imported, unless it is the one that the file declares
    · by_cases hsame : name = Naming.className t.name
      · exact Or.inr hsame
      · exact Or.inl ⟨hreference, hsame⟩

/-- **A name is bound once as a decorator and once as a class.** In each of the two lists it stands
at most once, so that counting is asking whether it is there. -/
theorem count_boundNames (settings : GeneratorSettings) (t : Table) (name : String) :
    (boundNames settings t).count name =
      (if name ∈ decoratorNames then 1 else 0)
        + if name ∈ boundClasses settings t then 1 else 0 := by
  rw [boundNames, List.count_append, nodup_decoratorNames.count,
    (nodup_boundClasses settings t).count]

/-- Names are bound twice only across the two lists. -/
theorem nodup_boundNames_iff :
    (boundNames settings t).Nodup ↔ ∀ name ∈ boundClasses settings t, name ∉ decoratorNames := by
  rw [boundNames, List.nodup_append']
  constructor
  · rintro ⟨-, -, hapart⟩ name hclass hdecorator
    exact hapart hdecorator hclass
  · intro h
    refine ⟨nodup_decoratorNames, nodup_boundClasses settings t, ?_⟩
    intro name hdecorator hclass
    exact h name hclass hdecorator

/-- **Which names an entity file binds**, and which of them twice. -/
structure BindsNames (settings : GeneratorSettings) (t : Table) : Prop where
  /-- The file begins with its imports, and declares the class behind them. -/
  head : ∃ fields, (EntityFile.ofTable settings t).contents =
    String.join ((header :: decoratorImport :: relatedImports settings t).map (· ++ "\n"))
      ++ "\n" ++ ("@Entity(" ++ singleQuoted t.name ++ ")"
        ++ "\nexport class " ++ (ofTable settings t).className ++ " \x7b\n" ++ fields)
  /-- The first import is that of the decorators. -/
  decorators : Imports decoratorImport decoratorNames "typeorm"
  /-- The others are those of the related classes, one line for each. -/
  related : List.Forall₂ (fun name line => ∃ module, Imports line [name] module)
    (ofTable settings t).imports (relatedImports settings t)
  /-- No name is bound more than once as a decorator and once as a class. -/
  count : ∀ name, (boundNames settings t).count name =
    (if name ∈ decoratorNames then 1 else 0) + if name ∈ boundClasses settings t then 1 else 0
  /-- The imported classes and the declared one are different. -/
  classes : (boundClasses settings t).Nodup
  /-- All names are different exactly if neither the table nor a table that it refers to is called
  like a decorator. -/
  apart : (boundNames settings t).Nodup ↔
    Naming.className t.name ∉ decoratorNames ∧
      ∀ fk ∈ firstOfEachColumn t.foreignKeys, Naming.className fk.refTable ∉ decoratorNames
  /-- There are tables called like any of them, so that the condition excludes something for each
  of the decorators. -/
  taken : decoratorNames = ["entity", "primary_generated_column", "primary_column", "column",
    "many_to_one", "join_column"].map Naming.className

/-- **An entity file binds no name twice, but that a class may be called like a decorator.** -/
theorem bindsNames (settings : GeneratorSettings) (t : Table) : BindsNames settings t where
  head := contents_eq settings t
  decorators := by decide
  related := by
    rw [relatedImports_eq, imports_ofTable, List.forall₂_map_right_iff, List.forall₂_same]
    intro name _
    exact ⟨_, imports_importLine _ name⟩
  count := count_boundNames settings t
  classes := nodup_boundClasses settings t
  apart := by
    rw [nodup_boundNames_iff]
    constructor
    · intro h
      refine ⟨h _ (mem_boundClasses.2 (Or.inl rfl)), ?_⟩
      intro fk hfk
      exact h _ (mem_boundClasses.2 (Or.inr ⟨fk, hfk, rfl⟩))
    · rintro ⟨hown, hreferences⟩ name hname
      rcases mem_boundClasses.1 hname with rfl | ⟨fk, hfk, rfl⟩
      · exact hown
      · exact hreferences fk hfk
  taken := by decide +kernel

/-- A table that is called as a decorator is. -/
def columnTable : Table :=
  { name := "column"
    columns := [⟨"id", "uuid", none, false, none, "uuid"⟩]
    primaryKey := ["id"]
    foreignKeys := []
    enumLabels := EnumLabels.empty }

/-- **A class and a decorator of one name**: the file of a table `column` imports `Column` and
declares it. -/
theorem not_bound_once_column :
    ¬ (boundNames .defaults columnTable).Nodup ∧
      (EntityFile.ofTable .defaults columnTable).contents =
        header ++ "\n" ++ decoratorImport ++ "\n\n@Entity('column')\nexport class Column \x7b\n"
          ++ "  @PrimaryGeneratedColumn('uuid', \x7b name: 'id' \x7d)\n  id: string;\n\x7d\n" := by
  constructor
  · rw [nodup_boundNames_iff]
    intro h
    exact h "Column" (mem_boundClasses.2 (Or.inl (by decide +kernel))) (by decide)
  · decide +kernel

end CatalogEntities.Entity
