import CatalogEntities.Proofs.Entity.Imports
import CatalogEntities.Proofs.Run.Published

/-!
# `Proofs/Run/References.lean` — where the relations of a run lead

A relation names a class and a module, and nothing else. That there is a file with this name, and
that it declares this class, is brought about in three places which know nothing of one another: the
imports of an entity file, the names of entity files, and the claims on these names. Here they are
put together, for runs that go well with any settings, also dry ones.

A table whose file name another table has taken is found all the same, since tables share a file
name exactly if they share a class name.

What is said of the file itself, and not only of its entry in the report, asks that the files of the
request stand apart (`Separate`): a dry run writes none, and a file that has the name of a temporary
one may be gone by the end. Any suffix that keeps the two apart will do.

The last section shows what stands in the way of saying more. Names that come from a database can be
names of decorators, or hold commas and line ends.
-/

set_option autoImplicit false

namespace CatalogEntities.Run

open Naming (className fileName)

variable {catalog : Catalog} {settings : GeneratorSettings} {requested : List String}

/-! ## The entries of a report -/

/-- The entries of a report are on the tables of the run, in their order. -/
theorem map_table_summary (hnamed : ∀ table t, catalog.describe table = .ok t → t.name = table)
    {asked : List String} {files : List EntityFile}
    (h : List.Forall₂ (Renders catalog settings) asked files) :
    (files.map (Job.summary settings)).map (·.table) = asked := by
  induction h with
  | nil => rfl
  | cons hfile _ ih =>
    obtain ⟨t, hdescribe, rfl⟩ := hfile
    rw [List.map_cons, List.map_cons, ih]
    congr 1
    exact hnamed _ t hdescribe

/-- **An entry of a report stands for the entity file of a table**: the one that the catalog
describes under its name. -/
structure StandsFor (catalog : Catalog) (settings : GeneratorSettings) (requested : List String)
    (after : FileSystem) (entry : GeneratedFile) (t : Table) : Prop where
  described : catalog.describe entry.table = .ok t
  path : entry.path =
    Path.join settings.outputDir (fileName entry.table settings.fileSuffix)
  /-- The file is there, unless the run was dry, file names lead elsewhere, or one of them is the
  name of a temporary file. -/
  stored : Separate catalog settings requested →
    after.readFile entry.path = .ok (EntityFile.ofTable settings t).contents.toByteArray

/-- Every entry of a report stands for an entity file. -/
theorem standsFor_of_mem (hnamed : ∀ table t, catalog.describe table = .ok t → t.name = table)
    {schedule : Schedule} {fs : FileSystem} {o : Outcome}
    (hrun : (scheduled catalog settings requested schedule fs).outcome = .ok o)
    {entry : GeneratedFile} (hentry : entry ∈ o.files) :
    ∃ t, StandsFor catalog settings requested
      (scheduled catalog settings requested schedule fs).files entry t := by
  obtain ⟨set, files, -, hfiles, ho⟩ := reported_of_ok hrun
  rw [ho] at hentry
  obtain ⟨file, hfile, rfl⟩ := List.mem_map.1 hentry
  obtain ⟨table, -, t, hdescribe, hrender⟩ := exists_left_of_mem hfiles hfile
  have hname : file.table = table := by
    rw [← hrender]
    exact hnamed table t hdescribe
  refine ⟨t, ?_, ?_, ?_⟩
  · rw [Job.summary, hname]
    exact hdescribe
  · have hfileName : file.name = fileName file.table settings.fileSuffix := by
      rw [← hrender]
      rfl
    rw [Job.summary, Job.path, hfileName]
  · intro hseparate
    -- the files that were reported are the files that were made, since a table has one entity file
    obtain ⟨set', base, files', -, -, hc, -⟩ := completes_of_ok hseparate hrun
    have hunique : Relator.RightUnique (Renders catalog settings) :=
      fun _ _ _ hone hother => hone.unique hother
    rw [hunique.forall₂ hfiles hc.renders] at hfile
    rw [hrender]
    exact ((hc.published hseparate).entities file hfile).2

/-! ## References -/

/-- **The file that a reference to a table leads to**: one entry of the report has its name, and it
declares the class. -/
structure LeadsToClass (catalog : Catalog) (settings : GeneratorSettings)
    (requested : List String) (after : FileSystem) (o : Outcome) (table : String) : Prop where
  /-- One entry is on a table with this file name. -/
  once : o.files.countP (fun entry =>
    fileName entry.table settings.fileSuffix = fileName table settings.fileSuffix) = 1
  /-- One entry has this path, unless file names lead elsewhere. -/
  oncePath : (∀ entry ∈ o.files, '/' ∉ (fileName entry.table settings.fileSuffix).toList) →
    o.files.countP (fun entry =>
      entry.path = Path.join settings.outputDir (fileName table settings.fileSuffix)) = 1
  /-- That entry stands for a file with the class. -/
  declares : ∃ entry ∈ o.files, ∃ t, StandsFor catalog settings requested after entry t ∧
    fileName entry.table settings.fileSuffix = fileName table settings.fileSuffix ∧
    Entity.Declares (EntityFile.ofTable settings t).contents (className table)

/-- Every listed table has its class in a file of the run: in its own, or in that of the table on
account of which it got none. -/
theorem leadsToClass (hnamed : ∀ table t, catalog.describe table = .ok t → t.name = table)
    {schedule : Schedule} {fs : FileSystem} {o : Outcome}
    (hrun : (scheduled catalog settings requested schedule fs).outcome = .ok o) {set : TableSet}
    (htables : o.files.map (·.table) = Claim.claimed settings.fileSuffix set.found)
    {table : String} (hfound : table ∈ set.found) :
    LeadsToClass catalog settings requested
      (scheduled catalog settings requested schedule fs).files o table := by
  obtain ⟨owner, howner, hname⟩ : ∃ owner ∈ Claim.claimed settings.fileSuffix set.found,
      fileName owner settings.fileSuffix = fileName table settings.fileSuffix :=
    Claim.exists_claimed hfound
  rw [← htables] at howner
  -- the owner of the file name: the table itself, or the one on account of which it was skipped
  obtain ⟨other, hother, rfl⟩ := List.mem_map.1 howner
  obtain ⟨t, ht⟩ := standsFor_of_mem hnamed hrun hother
  have honce : o.files.countP (fun entry =>
      fileName entry.table settings.fileSuffix = fileName table settings.fileSuffix) = 1 := by
    have hcount : (Claim.claimed settings.fileSuffix set.found).countP (fun owner =>
        fileName owner settings.fileSuffix = fileName table settings.fileSuffix) = 1 :=
      Claim.countP_claimed hfound
    rw [← htables, List.countP_map] at hcount
    exact hcount
  refine ⟨honce, fun hslash => ?_, other, hother, t, ht, hname, ?_⟩
  · -- without slashes, paths that are joined from the same directory differ in the names
    rw [← honce]
    refine List.countP_congr fun entry hentry => ?_
    obtain ⟨u, hu⟩ := standsFor_of_mem hnamed hrun hentry
    rw [decide_eq_true_eq, decide_eq_true_eq, hu.path, ← hname]
    constructor
    · exact Path.join_inj (hslash entry hentry) (hslash other hother)
    · intro hsame
      rw [hsame]
  · have hdeclares := Entity.declares_contents settings t
    rw [hnamed _ t ht.described, Naming.fileName_eq_iff.1 hname] at hdeclares
    exact hdeclares

/-- **References resolve.** The entity files of a run that goes well import what their relations
lead to, and every table of the listing that they lead to has its class in a file of the run. -/
theorem references_resolve
    (hnamed : ∀ table t, catalog.describe table = .ok t → t.name = table) {schedule : Schedule}
    {fs : FileSystem} {o : Outcome}
    (hrun : (scheduled catalog settings requested schedule fs).outcome = .ok o) :
    ∃ set, catalog.list requested settings.excludedTables = .ok set ∧
      ∀ entry ∈ o.files, ∃ t,
        StandsFor catalog settings requested
          (scheduled catalog settings requested schedule fs).files entry t ∧
        Entity.ImportsRelated settings t ∧
        ∀ fk ∈ firstOfEachColumn t.foreignKeys, fk.refTable ∈ set.found →
          LeadsToClass catalog settings requested
            (scheduled catalog settings requested schedule fs).files o fk.refTable := by
  obtain ⟨set, files, hset, hfiles, ho⟩ := reported_of_ok hrun
  have htables : o.files.map (·.table) = Claim.claimed settings.fileSuffix set.found := by
    rw [ho, ← tables_of_list hset]
    exact map_table_summary hnamed hfiles
  refine ⟨set, hset, fun entry hentry => ?_⟩
  obtain ⟨t, hstands⟩ := standsFor_of_mem hnamed hrun hentry
  refine ⟨t, hstands, Entity.importsRelated settings t, fun fk _ hfound => ?_⟩
  exact leadsToClass hnamed hrun htables hfound

/-- Settings under which nothing is written, for files of another kind. -/
def drySettings : GeneratorSettings :=
  { settingsFor "out" with fileSuffix := ".model", dryRun := true }

/-- What a dry run of the small request reports. -/
def dryOutcome : Outcome where
  dryRun := true
  files := [⟨"customers", "out/Customers.model", 303⟩, ⟨"orders", "out/Orders.model", 372⟩]
  missing := []
  colliding := []

theorem references_resolve_shop :
    ((∀ table t, shop.catalog.describe table = .ok t → t.name = table) ∧
      (scheduled shop.catalog drySettings [] [1] (.scratch "work")).outcome = .ok dryOutcome) ∧
    ∃ set, shop.catalog.list [] drySettings.excludedTables = .ok set ∧
      ∀ entry ∈ dryOutcome.files, ∃ t,
        StandsFor shop.catalog drySettings []
          (scheduled shop.catalog drySettings [] [1] (.scratch "work")).files entry t ∧
        Entity.ImportsRelated drySettings t ∧
        ∀ fk ∈ firstOfEachColumn t.foreignKeys, fk.refTable ∈ set.found →
          LeadsToClass shop.catalog drySettings []
            (scheduled shop.catalog drySettings [] [1] (.scratch "work")).files dryOutcome
            fk.refTable := by
  have hnamed : ∀ table t, shop.catalog.describe table = .ok t → t.name = table :=
    fun _ _ => name_of_describe (by decide)
  have hrun : (scheduled shop.catalog drySettings [] [1] (.scratch "work")).outcome =
      .ok dryOutcome := by decide +kernel
  exact ⟨⟨hnamed, hrun⟩, references_resolve hnamed hrun⟩

/-! ## What cannot be said -/

/-- A table whose class refers to one with the name of a decorator, and to one whose name has a
comma. -/
def orders : Table :=
  { name := "orders", columns := [], primaryKey := []
    foreignKeys := [⟨"entity_id", "entity", "id"⟩, ⟨"a_id", "a", "id"⟩, ⟨"b_id", "a, b", "id"⟩]
    enumLabels := .empty }

/-- A table with a label that looks like an import. -/
def moods : Table :=
  { name := "moods", columns := [⟨"mood", "mood", none, false, none, ""⟩], primaryKey := []
    foreignKeys := [], enumLabels := .ofList [("mood", "glad\nimport it;\n")] }

/-- These two, and a table that one of them refers to. -/
def confusedShop : MemoryCatalog := .ofTables
  [ { name := "entity", columns := [], primaryKey := [], foreignKeys := [], enumLabels := .empty },
    orders, moods ]

theorem outcome_confusedShop :
    (standard confusedShop.catalog (settingsFor "out") [] (.scratch "work")).outcome =
      .ok ⟨false, [⟨"entity", "out/Entity.entity.ts", 233⟩, ⟨"moods", "out/Moods.entity.ts", 323⟩,
        ⟨"orders", "out/Orders.entity.ts", 559⟩], [], []⟩ := by
  decide +kernel

theorem relatedImports_orders :
    Entity.relatedImports (settingsFor "out") orders =
      ["import \x7b Entity \x7d from './Entity.entity';", "import \x7b A \x7d from './A.entity';",
        "import \x7b A, b \x7d from './A, b.entity';"] := by
  have hreferenced : Entity.referencedClasses orders = ["Entity", "A", "A, b"] := by decide +kernel
  rw [Entity.relatedImports_eq, hreferenced]
  decide +kernel

theorem importLines_orders :
    Entity.importLines (EntityFile.ofTable (settingsFor "out") orders).contents =
      Entity.decoratorImport :: Entity.relatedImports (settingsFor "out") orders :=
  have hone : orders.OneLine := by decide
  Entity.importLines_contents (by decide) hone.name (hone.emitted (settingsFor "out"))

/-- A line that is nothing but part of a label is an import line of the file. -/
theorem mem_importLines_moods :
    "import it;" ∈ Entity.importLines (EntityFile.ofTable (settingsFor "out") moods).contents := by
  have hfield : (Field.choice "mood" ["glad\nimport it;\n"] false).source =
      "  @Column('enum', \x7b name: 'mood', enum: [\"glad" ++ "\n" ++ "import it;" ++ "\n" ++
        "\"] \x7d)\n  mood: \"glad\nimport it;\n\";\n" := by decide +kernel
  have hsource : (EntityFile.ofTable (settingsFor "out") moods).contents =
      String.join ((Entity.ofTable (settingsFor "out") moods).headLines.map (· ++ "\n")) ++
        "\n".intercalate [(Field.choice "mood" ["glad\nimport it;\n"] false).source] ++ "\x7d\n" :=
    rfl
  rw [String.intercalate_singleton, hfield] at hsource
  have htext : (EntityFile.ofTable (settingsFor "out") moods).contents =
      (String.join ((Entity.ofTable (settingsFor "out") moods).headLines.map (· ++ "\n")) ++
        "  @Column('enum', \x7b name: 'mood', enum: [\"glad") ++ "\n" ++ "import it;" ++ "\n" ++
          ("\"] \x7d)\n  mood: \"glad\nimport it;\n\";\n" ++ "\x7d\n") := by
    rw [hsource]
    simp only [String.append_assoc]
  exact Entity.mem_importLines htext (by decide) (by decide)

/-- A table that refers to one whose entity file can have the name of its own temporary file. -/
def crossing : Table :=
  { name := "1", columns := [], primaryKey := [], foreignKeys := [⟨"one_id", ".1.tmp", "id"⟩]
    enumLabels := .empty }

/-- Both of them. -/
def crossedShop : MemoryCatalog := .ofTables
  [ { name := ".1.tmp", columns := [], primaryKey := [], foreignKeys := [], enumLabels := .empty },
    crossing ]

/-- Settings for files that are named like temporary ones. -/
def temporarySettings : GeneratorSettings := { settingsFor "out" with fileSuffix := ".tmp" }

/-- A run in which one table's file is renamed to another's temporary file just before that is
renamed. -/
def crossedRun : RunResult :=
  scheduled crossedShop.catalog temporarySettings [] [0, 1, 1, 0, 0, 1] (.scratch "work")

theorem outcome_crossedRun :
    crossedRun.outcome =
      .ok ⟨false, [⟨".1.tmp", "out/.1.tmp.tmp", 233⟩, ⟨"1", "out/1.tmp", 338⟩], [], []⟩ := by
  decide +kernel

theorem readFile_crossedRun :
    crossedRun.files.readFile "out/.1.tmp.tmp" = .error .notFound := by
  decide +kernel

/-- **A class can be bound twice, a line of a label can be an import, and a file can be lost.**
A related class may have the name of a decorator, or its name a comma; a label that has lines may
have an import line; and where file names are like those of temporary files, a run that goes well
may have renamed the file of a related table to something else. -/
theorem references_confused :
    let contents (t : Table) := (EntityFile.ofTable (settingsFor "out") t).contents
    ((∃ o, (standard confusedShop.catalog (settingsFor "out") [] (.scratch "work")).outcome =
          .ok o ∧ "orders" ∈ o.files.map (·.table) ∧ "moods" ∈ o.files.map (·.table)) ∧
      confusedShop.catalog.describe "orders" = .ok orders ∧
      confusedShop.catalog.describe "moods" = .ok moods ∧
      crossedShop.catalog.describe "1" = .ok crossing) ∧
    ¬ (∀ fk ∈ firstOfEachColumn orders.foreignKeys, className fk.refTable ≠ className orders.name →
      ∃! line, line ∈ Entity.importLines (contents orders) ∧
        Entity.Binds line (className fk.refTable)) ∧
    ¬ (∀ fk ∈ firstOfEachColumn orders.foreignKeys, className fk.refTable ≠ className orders.name →
      ∃! line, line ∈ Entity.relatedImports (settingsFor "out") orders ∧
        Entity.Binds line (className fk.refTable)) ∧
    ¬ (∀ line ∈ Entity.importLines (contents moods), line = Entity.decoratorImport ∨
      ∃ fk ∈ moods.foreignKeys, Entity.Binds line (className fk.refTable)) ∧
    ¬ (∀ o, crossedRun.outcome = .ok o → ∀ fk ∈ firstOfEachColumn crossing.foreignKeys,
      ∃ entry ∈ o.files, fileName entry.table ".tmp" = fileName fk.refTable ".tmp" ∧
        ∃ text : String, crossedRun.files.readFile entry.path = .ok text.toByteArray ∧
          Entity.Declares text (className fk.refTable)) := by
  refine ⟨⟨⟨_, outcome_confusedShop, by simp, by simp⟩, rfl, rfl, rfl⟩, ?_, ?_, ?_, ?_⟩
  · intro honce
    have hfk : ⟨"entity_id", "entity", "id"⟩ ∈ firstOfEachColumn orders.foreignKeys := by decide
    have hclass : className "entity" = "Entity" := by decide +kernel
    obtain ⟨line, -, hunique⟩ := honce _ hfk (by decide +kernel)
    rw [importLines_orders, relatedImports_orders, hclass] at hunique
    -- the line of the decorators binds the name, and so does the line of the related class
    have hdecorators := hunique Entity.decoratorImport
      ⟨by simp, ["Entity", "PrimaryGeneratedColumn", "PrimaryColumn", "Column", "ManyToOne",
        "JoinColumn"], "typeorm", by decide +kernel, by simp⟩
    have hrelated := hunique "import \x7b Entity \x7d from './Entity.entity';"
      ⟨by simp, ["Entity"], "./Entity.entity", by decide +kernel, by simp⟩
    rw [← hrelated] at hdecorators
    exact absurd hdecorators (by decide +kernel)
  · intro honce
    have hfk : ⟨"a_id", "a", "id"⟩ ∈ firstOfEachColumn orders.foreignKeys := by decide
    have hclass : className "a" = "A" := by decide +kernel
    obtain ⟨line, -, hunique⟩ := honce _ hfk (by decide +kernel)
    rw [relatedImports_orders, hclass] at hunique
    -- behind the comma, the line of the other class imports a second name
    have hown := hunique "import \x7b A \x7d from './A.entity';"
      ⟨by simp, ["A"], "./A.entity", by decide +kernel, by simp⟩
    have hother := hunique "import \x7b A, b \x7d from './A, b.entity';"
      ⟨by simp, ["A", "b"], "./A, b.entity", by decide +kernel, by simp⟩
    rw [← hother] at hown
    exact absurd hown (by decide +kernel)
  · intro hall
    rcases hall "import it;" mem_importLines_moods with hsame | ⟨fk, hfk, -⟩
    · exact absurd hsame (by decide +kernel)
    · exact absurd hfk List.not_mem_nil
  · intro hall
    have hfk : ⟨"one_id", ".1.tmp", "id"⟩ ∈ firstOfEachColumn crossing.foreignKeys := by decide
    obtain ⟨entry, hentry, hname, text, hread, -⟩ := hall _ outcome_crossedRun _ hfk
    rcases List.mem_cons.1 hentry with rfl | hentry
    · rw [readFile_crossedRun] at hread
      exact absurd hread (by simp)
    · rw [List.mem_singleton.1 hentry] at hname
      exact absurd hname (by decide +kernel)

end CatalogEntities.Run
