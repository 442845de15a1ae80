import CatalogEntities.Catalog.Memory
import CatalogEntities.Proofs.FileSystem.Lookup
import CatalogEntities.Proofs.Run.Claim
import CatalogEntities.Run

/-!
# `Proofs/Run/Request.lean` — where the files of a request stand

Every table that a request makes a file of has two places in the output directory, one for its
entity file and one for the temporary file beside it. Nothing else is needed of names and paths
than that all these places are different (`Separate.apart`): the entity files because their names
are claimed, and the temporary files because no entity file is called like one.

That last condition is not idle, and nothing in a run looks after it. Where the suffix is that of
temporary files, one table's entity file can have the name of another's temporary file, and a run
that goes well can then lose a file. Settings that are TypeScript settings are safe (`Regular`), and
so is every suffix that ends with another letter than temporary files do (`Separate.of_ending`).
-/

set_option autoImplicit false

namespace CatalogEntities

/-- The name of the temporary file beside a file. -/
def Job.temporaryName (name : String) : String := "." ++ name ++ ".tmp"

namespace Run

/-- The tables that a request makes entity files of, in the order of the listing; none if the
listing fails. Jobs are numbered by their places in this list. -/
def tables (catalog : Catalog) (settings : GeneratorSettings) (requested : List String) :
    List String :=
  match catalog.list requested settings.excludedTables with
  | .ok set => Claim.claimed settings.fileSuffix set.found
  | .error _ => []

/-- **A request whose files stand apart**: a catalog describes the table that it is asked for, files
are written, every file name is one name in the output directory, and no entity file has the name
of a temporary one. This is all that the statements on where files stand rest on. -/
structure Separate (catalog : Catalog) (settings : GeneratorSettings) (requested : List String) :
    Prop where
  named : ∀ table t, catalog.describe table = .ok t → t.name = table
  writes : settings.dryRun = false
  isName : ∀ {table : String}, table ∈ tables catalog settings requested →
    Path.IsName (Naming.fileName table settings.fileSuffix)
  notTemporary : ∀ {a b : String}, a ∈ tables catalog settings requested →
    b ∈ tables catalog settings requested →
      Naming.fileName a settings.fileSuffix ≠
        Job.temporaryName (Naming.fileName b settings.fileSuffix)

/-- **A request for TypeScript files.** It is the request as it is meant to be: files end in `.ts`,
and no table's name holds a slash that would lead its file elsewhere. Its files stand apart
(`Regular.separate`), whatever the tables are called otherwise. -/
structure Regular (catalog : Catalog) (settings : GeneratorSettings) (requested : List String) :
    Prop where
  named : ∀ table t, catalog.describe table = .ok t → t.name = table
  writes : settings.dryRun = false
  suffix : ∃ stem, settings.fileSuffix = stem ++ ".ts"
  noSlash : ∀ set, catalog.list requested settings.excludedTables = .ok set →
    ∀ table ∈ set.found, '/' ∉ (Naming.fileName table settings.fileSuffix).toList

/-- The entity file that a catalog's description of a table becomes. It is a relation because a
catalog may have no description; it never has two. -/
def Renders (catalog : Catalog) (settings : GeneratorSettings) (table : String)
    (file : EntityFile) : Prop :=
  ∃ t, catalog.describe table = .ok t ∧ EntityFile.ofTable settings t = file

/-- What stands where an entity file is complete. -/
def complete (file : EntityFile) : Node := .file file.contents.toByteArray

/-- The place of a table's entity file. Places are spoken of and not paths, because what a step
changes is a place, and different paths can lead to one. -/
def target (settings : GeneratorSettings) (fs : FileSystem) (table : String) : Location :=
  fs.locate (Path.join settings.outputDir (Naming.fileName table settings.fileSuffix))

/-- The place of the temporary file beside a table's entity file. -/
def temporary (settings : GeneratorSettings) (fs : FileSystem) (table : String) : Location :=
  fs.locate (Path.join settings.outputDir
    (Job.temporaryName (Naming.fileName table settings.fileSuffix)))

/-- Places do not depend on what stands anywhere. -/
theorem target_congr {settings : GeneratorSettings} {a b : FileSystem}
    (h : b.working = a.working) (table : String) :
    target settings b table = target settings a table := by
  rw [target, target, FileSystem.locate_congr h]

theorem temporary_congr {settings : GeneratorSettings} {a b : FileSystem}
    (h : b.working = a.working) (table : String) :
    temporary settings b table = temporary settings a table := by
  rw [temporary, temporary, FileSystem.locate_congr h]

/-! ## Names -/

/-- A file name ends with the last character of its suffix. -/
theorem getLast?_fileName {table suffix : String} {last : Char}
    (hlast : suffix.toList.getLast? = some last) :
    (Naming.fileName table suffix).toList.getLast? = some last := by
  rw [Naming.fileName, String.toList_append, List.getLast?_append, hlast]
  rfl

theorem getLast?_temporaryName (name : String) :
    (Job.temporaryName name).toList.getLast? = some 'p' := by
  rw [Job.temporaryName, String.toList_append, List.getLast?_append]
  rfl

theorem isName_temporaryName {name : String} (h : '/' ∉ name.toList) :
    Path.IsName (Job.temporaryName name) := by
  refine .of_getLast? ?_ (getLast?_temporaryName name) (by decide)
  rw [Job.temporaryName, String.toList_append, String.toList_append]
  simp [h]

theorem temporaryName_injective {a b : String} (h : Job.temporaryName a = Job.temporaryName b) :
    a = b := by
  have hchars := congrArg String.toList h
  simp only [Job.temporaryName, String.toList_append] at hchars
  exact String.toList_injective (List.append_cancel_left (List.append_cancel_right hchars))

namespace Separate

variable {catalog : Catalog} {settings : GeneratorSettings} {requested : List String}

/-- **Files stand apart under any suffix that does not end like that of temporary files**, as long
as no file name holds a slash. A suffix that ends with a dot is left out, because a file might then
be called by dots alone. -/
theorem of_ending (hnamed : ∀ table t, catalog.describe table = .ok t → t.name = table)
    (hwrites : settings.dryRun = false) {last : Char}
    (hlast : settings.fileSuffix.toList.getLast? = some last) (hother : last ≠ 'p')
    (hdot : last ≠ '.')
    (hslash : ∀ table ∈ tables catalog settings requested,
      '/' ∉ (Naming.fileName table settings.fileSuffix).toList) :
    Separate catalog settings requested where
  named := hnamed
  writes := hwrites
  isName htable := .of_getLast? (hslash _ htable) (getLast?_fileName hlast) hdot
  notTemporary := by
    intro a b _ _ heq
    have hlasts := getLast?_temporaryName (Naming.fileName b settings.fileSuffix)
    rw [← heq, getLast?_fileName hlast] at hlasts
    exact hother (Option.some.inj hlasts)

theorem target_eq (h : Separate catalog settings requested) {table : String}
    (htable : table ∈ tables catalog settings requested) (fs : FileSystem) :
    target settings fs table =
      fs.locate settings.outputDir ++ [Naming.fileName table settings.fileSuffix] := by
  rw [target, fs.locate_join settings.outputDir (h.isName htable)]

theorem temporary_eq (h : Separate catalog settings requested) {table : String}
    (htable : table ∈ tables catalog settings requested) (fs : FileSystem) :
    temporary settings fs table = fs.locate settings.outputDir ++
      [Job.temporaryName (Naming.fileName table settings.fileSuffix)] := by
  rw [temporary, fs.locate_join settings.outputDir
    (isName_temporaryName (h.isName htable).noSlash)]

/-- **An entity file never stands where a temporary file stands**, of whatever tables. -/
theorem target_ne_temporary (h : Separate catalog settings requested) {a b : String}
    (ha : a ∈ tables catalog settings requested) (hb : b ∈ tables catalog settings requested)
    (fs : FileSystem) : target settings fs a ≠ temporary settings fs b := by
  rw [h.target_eq ha, h.temporary_eq hb]
  intro heq
  exact h.notTemporary ha hb (List.cons.inj (List.append_cancel_left heq)).1

theorem fileName_eq_of_target_eq (h : Separate catalog settings requested) {a b : String}
    (ha : a ∈ tables catalog settings requested) (hb : b ∈ tables catalog settings requested)
    {fs : FileSystem} (heq : target settings fs a = target settings fs b) :
    Naming.fileName a settings.fileSuffix = Naming.fileName b settings.fileSuffix := by
  rw [h.target_eq ha, h.target_eq hb] at heq
  exact (List.cons.inj (List.append_cancel_left heq)).1

theorem fileName_eq_of_temporary_eq (h : Separate catalog settings requested) {a b : String}
    (ha : a ∈ tables catalog settings requested) (hb : b ∈ tables catalog settings requested)
    {fs : FileSystem} (heq : temporary settings fs a = temporary settings fs b) :
    Naming.fileName a settings.fileSuffix = Naming.fileName b settings.fileSuffix := by
  rw [h.temporary_eq ha, h.temporary_eq hb] at heq
  exact temporaryName_injective (List.cons.inj (List.append_cancel_left heq)).1

end Separate

/-- Two of the tables have different file names. -/
theorem fileName_ne_of_ne {catalog : Catalog} {settings : GeneratorSettings}
    {requested : List String} {i j : Nat} {a b : String} (hij : i ≠ j)
    (ha : (tables catalog settings requested)[i]? = some a)
    (hb : (tables catalog settings requested)[j]? = some b) :
    Naming.fileName a settings.fileSuffix ≠ Naming.fileName b settings.fileSuffix := by
  unfold tables at ha hb
  split at ha
  · -- the claims have no two of a name; they say so of an earlier and a later one
    rename_i set hset
    rw [hset] at hb
    obtain ⟨hi, rfl⟩ := List.getElem?_eq_some_iff.1 ha
    obtain ⟨hj, rfl⟩ := List.getElem?_eq_some_iff.1 hb
    have hpairs := List.pairwise_iff_getElem.1
      (Claim.pairwise_claimed settings.fileSuffix set.found)
    rcases Nat.lt_or_gt_of_ne hij with hlt | hlt
    · exact hpairs i j hi hj hlt
    · exact (hpairs j i hj hi hlt).symm
  · exact absurd ha (by simp)

/-- **The places of one table**: those of any other are different. This is the frame of every step
of a run: what a job writes, no other job can have written or will find changed. -/
theorem Separate.apart {catalog : Catalog} {settings : GeneratorSettings} {requested : List String}
    (h : Separate catalog settings requested) {i j : Nat} {a b : String} (hij : i ≠ j)
    (ha : (tables catalog settings requested)[i]? = some a)
    (hb : (tables catalog settings requested)[j]? = some b) (fs : FileSystem) :
    ∀ loc, loc = target settings fs b ∨ loc = temporary settings fs b →
      loc ≠ target settings fs a ∧ loc ≠ temporary settings fs a := by
  have hmema := List.mem_of_getElem? ha
  have hmemb := List.mem_of_getElem? hb
  have hname := fileName_ne_of_ne hij ha hb
  intro loc hloc
  rcases hloc with hloc | hloc
  · rw [hloc]
    exact ⟨fun heq => hname (h.fileName_eq_of_target_eq hmemb hmema heq).symm,
      h.target_ne_temporary hmemb hmema fs⟩
  · rw [hloc]
    exact ⟨(h.target_ne_temporary hmema hmemb fs).symm,
      fun heq => hname (h.fileName_eq_of_temporary_eq hmemb hmema heq).symm⟩

/-- **The files of a request for TypeScript files stand apart.** -/
theorem Regular.separate {catalog : Catalog} {settings : GeneratorSettings}
    {requested : List String} (h : Regular catalog settings requested) :
    Separate catalog settings requested := by
  obtain ⟨stem, hstem⟩ := h.suffix
  have hlast : settings.fileSuffix.toList.getLast? = some 's' := by
    rw [hstem, String.toList_append, List.getLast?_append]
    rfl
  refine .of_ending h.named h.writes hlast (by decide) (by decide) fun table htable => ?_
  -- a table that gets a file was found
  unfold tables at htable
  split at htable
  · rename_i set hset
    exact h.noSlash set hset table ((Claim.claimed_sublist _ _).subset htable)
  · exact absurd htable List.not_mem_nil

/-! ## A small request -/

/-- Two tables held in memory, one of which refers to the other. -/
def shop : MemoryCatalog := .ofTables
  [ { name := "customers", columns := [⟨"id", "uuid", none, false, none, ""⟩], primaryKey := ["id"]
      foreignKeys := [], enumLabels := .empty },
    { name := "orders", columns := [⟨"customer_id", "uuid", none, false, none, ""⟩]
      primaryKey := [], foreignKeys := [⟨"customer_id", "customers", "id"⟩]
      enumLabels := .empty } ]

/-- The default settings with an output directory. -/
def settingsFor (outputDir : String) : GeneratorSettings :=
  { GeneratorSettings.defaults with outputDir }

theorem name_of_describe {c : MemoryCatalog} (h : ∀ p ∈ c.tables.entries, p.2.name = p.1)
    {table : String} {t : Table} (hdescribe : c.catalog.describe table = .ok t) :
    t.name = table := by
  have hfind : c.describe table = .ok t := hdescribe
  unfold MemoryCatalog.describe at hfind
  split at hfind
  · exact absurd hfind (by simp)
  · rename_i hfound
    rw [← Except.ok.inj hfind]
    exact h _ (Dictionary.mem_entries_of_find? hfound)
  · exact absurd hfind (by simp)

theorem regular_shop (outputDir : String) : Regular shop.catalog (settingsFor outputDir) [] where
  named table t := name_of_describe (by decide)
  writes := rfl
  suffix := ⟨".entity", rfl⟩
  noSlash set hset table htable := by
    have hfound : shop.catalog.list [] GeneratorSettings.defaultExcludedTables =
        .ok ⟨["customers", "orders"], []⟩ := rfl
    change shop.catalog.list [] GeneratorSettings.defaultExcludedTables = .ok set at hset
    rw [hfound] at hset
    rw [← Except.ok.inj hset] at htable
    have hnames : ∀ name ∈ ["customers", "orders"],
        '/' ∉ (Naming.fileName name ".entity.ts").toList := by decide +kernel
    exact hnames table htable

/-- Files of another kind stand apart too. -/
example : Separate shop.catalog { settingsFor "out" with fileSuffix := ".model" } [] := by
  refine .of_ending (fun _ _ => name_of_describe (by decide)) rfl rfl (by decide) (by decide) ?_
  have htables : tables shop.catalog { settingsFor "out" with fileSuffix := ".model" } [] =
      ["customers", "orders"] := by decide +kernel
  rw [htables]
  decide +kernel

end Run

end CatalogEntities
