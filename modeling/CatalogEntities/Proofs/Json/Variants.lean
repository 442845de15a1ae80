import CatalogEntities.Proofs.Json.Records
import CatalogEntities.Settings.Json
import CatalogEntities.Table.Json
import Mathlib.Data.List.Forall2

/-!
# `Proofs/Json/Variants.lean` — the forms of tables and settings

Tables and settings are records of records, and every one of their decoders is exact. For each
record there is its **layout**, the fields in the order of declaration with what stands for them
where they are absent, and two lemmas on its decoder: what an object must have for it, and what an
array must.

A column that is told nothing of its length or default has none. A setting that is not given has its
default, so taking settings out of what is written resets them (`Settings.reset`).

The layouts repeat what the derived instances of serialization follow: the order in which fields are
declared, which is that of the positional form, their names, and which of them have a default. That
each layout is the right one is what the lemmas on objects and arrays check, as the decoders are
written out on their own. The results for tables and for settings are put into one statement at the
end (`losesNothing`).
-/

set_option autoImplicit false

namespace CatalogEntities

open CatalogEntities.Json

/-! ## Columns -/

namespace Column

/-- The fields of a column. A length or a default that is absent is null. -/
def layout : List RecordField :=
  [ ⟨"name", none, id⟩, ⟨"data_type", none, id⟩, ⟨"max_length", some .null, id⟩,
    ⟨"is_nullable", none, id⟩, ⟨"default", some .null, id⟩, ⟨"udt_name", none, id⟩ ]

def normal : Json → Json := normalRecord layout

/-- What a column is written with, field by field. -/
def values (c : Column) : List Json :=
  [ .string c.name, .string c.dataType, .orNull (fun n => .integer n.toInt) c.maxLength,
    .bool c.isNullable, .orNull .string c.default, .string c.udtName ]

/-- What an object must have for a column. Members may be missing that can be null, and others may
be there; the order is that of the decoder's questions, which is not that of declaration. -/
theorem ofJson_object_iff {found : List (String × Json)} {c : Column} :
    ofJson (.object found) = .ok c ↔
      Given ((members found).find? "name") decodeString c.name ∧
      Given ((members found).find? "data_type") decodeString c.dataType ∧
      GivenOr ((members found).find? "max_length") (decodeOption decodeSigned32) none
        c.maxLength ∧
      Given ((members found).find? "is_nullable") decodeBool c.isNullable ∧
      GivenOr ((members found).find? "default") (decodeOption decodeString) none c.default ∧
      Given ((members found).find? "udt_name") decodeString c.udtName := by
  simp only [ofJson, bind_eq_ok_iff, required_eq_ok_iff, pure_eq_ok_iff, ← field_eq_some_iff,
    ← exists_field_iff]
  constructor
  · rintro ⟨_, hdataType, _, hdefault, _, hnullable, _, hlength, _, hname, _, hudtName,
      _, rfl, _, rfl, _, rfl, _, rfl, rfl⟩
    exact ⟨hname, hdataType, ⟨_, hlength, rfl⟩, hnullable, ⟨_, hdefault, rfl⟩, hudtName⟩
  · rintro ⟨hname, hdataType, ⟨_, hlength, hmax⟩, hnullable, ⟨_, hdefault, htext⟩, hudtName⟩
    refine ⟨_, hdataType, _, hdefault, _, hnullable, _, hlength, _, hname, _, hudtName,
      _, rfl, _, rfl, _, rfl, _, rfl, ?_⟩
    rw [hmax, htext]

/-- What an array must have for a column. As the last element must be there, all have to be. -/
theorem ofJson_array_iff {items : List Json} {c : Column} :
    ofJson (.array items) = .ok c ↔ items.length ≤ 6 ∧
      Given items[0]? decodeString c.name ∧
      Given items[1]? decodeString c.dataType ∧
      GivenOr items[2]? (decodeOption decodeSigned32) none c.maxLength ∧
      Given items[3]? decodeBool c.isNullable ∧
      GivenOr items[4]? (decodeOption decodeString) none c.default ∧
      Given items[5]? decodeString c.udtName := by
  simp only [ofJson, bind_eq_ok_iff, element_eq_ok_iff, noneBeyond_eq_ok_iff, pure_eq_ok_iff]
  constructor
  · rintro ⟨_, hname, _, hdataType, _, hlength, _, hnullable, _, hdefault, _, hudtName, _, hsize,
      rfl⟩
    exact ⟨hsize, hname, hdataType, Or.inr hlength, hnullable, Or.inr hdefault, hudtName⟩
  · rintro ⟨hsize, hname, hdataType, hlength, hnullable, hdefault, hudtName⟩
    -- an array has no gaps: both are there, since the last element is
    have hlength := (givenOr_iff_of_later (by decide) hudtName).1 hlength
    have hdefault := (givenOr_iff_of_later (by decide) hudtName).1 hdefault
    exact ⟨_, hname, _, hdataType, _, hlength, _, hnullable, _, hdefault, _, hudtName, (), hsize,
      rfl⟩

theorem exact : Exact ofJson normal toJson := by
  apply exact_record values (by decide) (fun _ => rfl)
  · intro found c
    rw [ofJson_object_iff]
    simp [layout, values, slot_eq_some_iff exact_string, slot_eq_some_iff exact_bool,
      slot_null_eq_some_iff exact_string, slot_null_eq_some_iff exact_signed32]
  · intro items c
    rw [ofJson_array_iff]
    simp [layout, values, slot_eq_some_iff exact_string, slot_eq_some_iff exact_bool,
      slot_null_eq_some_iff exact_string, slot_null_eq_some_iff exact_signed32]
  · intro v c
    cases v
    all_goals simp [ofJson, refuse]
  · intro c
    rfl

end Column

/-! ## Foreign keys -/

namespace ForeignKey

def layout : List RecordField :=
  [⟨"column", none, id⟩, ⟨"ref_table", none, id⟩, ⟨"ref_column", none, id⟩]

def normal : Json → Json := normalRecord layout

def values (fk : ForeignKey) : List Json :=
  [.string fk.column, .string fk.refTable, .string fk.refColumn]

theorem ofJson_object_iff {found : List (String × Json)} {fk : ForeignKey} :
    ofJson (.object found) = .ok fk ↔
      Given ((members found).find? "column") decodeString fk.column ∧
      Given ((members found).find? "ref_table") decodeString fk.refTable ∧
      Given ((members found).find? "ref_column") decodeString fk.refColumn := by
  simp only [ofJson, bind_eq_ok_iff, required_eq_ok_iff, pure_eq_ok_iff, ← field_eq_some_iff]
  constructor
  · rintro ⟨_, hcolumn, _, hrefColumn, _, hrefTable, _, rfl, _, rfl, _, rfl, rfl⟩
    exact ⟨hcolumn, hrefTable, hrefColumn⟩
  · rintro ⟨hcolumn, hrefTable, hrefColumn⟩
    exact ⟨_, hcolumn, _, hrefColumn, _, hrefTable, _, rfl, _, rfl, _, rfl, rfl⟩

theorem ofJson_array_iff {items : List Json} {fk : ForeignKey} :
    ofJson (.array items) = .ok fk ↔ items.length ≤ 3 ∧
      Given items[0]? decodeString fk.column ∧
      Given items[1]? decodeString fk.refTable ∧
      Given items[2]? decodeString fk.refColumn := by
  simp only [ofJson, bind_eq_ok_iff, element_eq_ok_iff, noneBeyond_eq_ok_iff, pure_eq_ok_iff]
  constructor
  · rintro ⟨_, hcolumn, _, hrefTable, _, hrefColumn, _, hsize, rfl⟩
    exact ⟨hsize, hcolumn, hrefTable, hrefColumn⟩
  · rintro ⟨hsize, hcolumn, hrefTable, hrefColumn⟩
    exact ⟨_, hcolumn, _, hrefTable, _, hrefColumn, (), hsize, rfl⟩

theorem exact : Exact ofJson normal toJson := by
  apply exact_record values (by decide) (fun _ => rfl)
  · intro found fk
    rw [ofJson_object_iff]
    simp [layout, values, slot_eq_some_iff exact_string]
  · intro items fk
    rw [ofJson_array_iff]
    simp [layout, values, slot_eq_some_iff exact_string]
  · intro v fk
    cases v
    all_goals simp [ofJson, refuse]
  · intro fk
    rfl

end ForeignKey

/-! ## Labels -/

namespace EnumLabels

/-- Each entry is decoded under its name, and the names stay as they are. -/
theorem mapM_entries_eq_ok_iff {entries : List (String × Json)}
    {pairs : List (String × List String)} :
    (entries.mapM fun entry => (decodeList decodeString entry.2).map fun xs => (entry.1, xs)) =
        .ok pairs ↔
      entries = pairs.map fun pair => (pair.1, strings pair.2) := by
  induction entries generalizing pairs with
  | nil =>
    rw [List.mapM_nil, pure_eq_ok_iff, eq_comm (a := [])]
    simp
  | cons entry rest ih =>
    obtain ⟨name, value⟩ := entry
    simp only [List.mapM_cons, bind_eq_ok_iff, map_eq_ok_iff, pure_eq_ok_iff, ih,
      exact_strings.iff]
    constructor
    · rintro ⟨_, ⟨xs, hvalue, rfl⟩, rest, rfl, rfl⟩
      rw [List.map_cons, ← hvalue]
      rfl
    · intro heq
      obtain ⟨⟨key, xs⟩, rest, rfl, hentry, rfl⟩ := List.map_eq_cons_iff.1 heq.symm
      obtain ⟨rfl, rfl⟩ := Prod.mk.inj hentry
      exact ⟨_, ⟨xs, rfl, rfl⟩, rest, rfl, rfl⟩

theorem decodeMap_eq_ok_iff {found : List (String × Json)} {pairs : List (String × List String)} :
    decodeMap (decodeList decodeString) (.object found) = .ok pairs ↔
      (members found).entries = pairs.map fun pair => (pair.1, strings pair.2) :=
  mapM_entries_eq_ok_iff

theorem exact : Exact ofJson normalMap toJson := by
  constructor
  · intro v labels
    rw [ofJson, map_eq_ok_iff]
    cases v with
    | object found =>
      rw [normalMap, toJson, object.injEq]
      simp only [decodeMap_eq_ok_iff]
      constructor
      · -- members are kept in the order of their names, so the pairs are a dictionary as they come
        rintro ⟨pairs, hpairs, rfl⟩
        have hascending : Ascending pairs := by
          have hfound := (members found).ascending
          rw [hpairs] at hfound
          simpa [Ascending, List.pairwise_map] using hfound
        have hlist : Dictionary.ofList pairs = ⟨pairs, hascending⟩ :=
          Dictionary.ofList_entries ⟨pairs, hascending⟩
        rw [hpairs, hlist]
        rfl
      · intro heq
        exact ⟨labels.byColumn.entries, heq, by rw [Dictionary.ofList_entries]⟩
    | null | bool _ | integer _ | float _ | string _ | array _ =>
      simp [decodeMap, refuse, normalMap, toJson]
  · intro labels
    have hmembers := Dictionary.ofList_entries (labels.byColumn.mapValues strings)
    rw [toJson, normalMap, members, hmembers]

end EnumLabels

/-! ## Tables -/

namespace Table

def layout : List RecordField :=
  [ ⟨"name", none, id⟩, ⟨"columns", none, normalItems Column.normal⟩, ⟨"primary_key", none, id⟩,
    ⟨"foreign_keys", none, normalItems ForeignKey.normal⟩, ⟨"enum_labels", none, normalMap⟩ ]

/-- **The normal form of a table**: objects for arrays, no unknown fields, and null for a length or
a default that is absent. -/
def normal : Json → Json := normalRecord layout

/-- What a table is written with, field by field. -/
def values (t : Table) : List Json :=
  [ .string t.name, .array (t.columns.map Column.toJson), .strings t.primaryKey,
    .array (t.foreignKeys.map ForeignKey.toJson), t.enumLabels.toJson ]

/-- What an object must have for a table: everything, though its labels may be an empty object. -/
theorem ofJson_object_iff {found : List (String × Json)} {t : Table} :
    ofJson (.object found) = .ok t ↔
      Given ((members found).find? "name") decodeString t.name ∧
      Given ((members found).find? "columns") (decodeList Column.ofJson) t.columns ∧
      Given ((members found).find? "primary_key") (decodeList decodeString) t.primaryKey ∧
      Given ((members found).find? "foreign_keys") (decodeList ForeignKey.ofJson) t.foreignKeys ∧
      Given ((members found).find? "enum_labels") EnumLabels.ofJson t.enumLabels := by
  simp only [ofJson, bind_eq_ok_iff, required_eq_ok_iff, pure_eq_ok_iff, ← field_eq_some_iff]
  constructor
  · rintro ⟨_, hcolumns, _, hlabels, _, hforeignKeys, _, hname, _, hprimaryKey, _, rfl, _, rfl,
      _, rfl, _, rfl, _, rfl, rfl⟩
    exact ⟨hname, hcolumns, hprimaryKey, hforeignKeys, hlabels⟩
  · rintro ⟨hname, hcolumns, hprimaryKey, hforeignKeys, hlabels⟩
    exact ⟨_, hcolumns, _, hlabels, _, hforeignKeys, _, hname, _, hprimaryKey, _, rfl, _, rfl,
      _, rfl, _, rfl, _, rfl, rfl⟩

theorem ofJson_array_iff {items : List Json} {t : Table} :
    ofJson (.array items) = .ok t ↔ items.length ≤ 5 ∧
      Given items[0]? decodeString t.name ∧
      Given items[1]? (decodeList Column.ofJson) t.columns ∧
      Given items[2]? (decodeList decodeString) t.primaryKey ∧
      Given items[3]? (decodeList ForeignKey.ofJson) t.foreignKeys ∧
      Given items[4]? EnumLabels.ofJson t.enumLabels := by
  simp only [ofJson, bind_eq_ok_iff, element_eq_ok_iff, noneBeyond_eq_ok_iff, pure_eq_ok_iff]
  constructor
  · rintro ⟨_, hname, _, hcolumns, _, hprimaryKey, _, hforeignKeys, _, hlabels, _, hsize, rfl⟩
    exact ⟨hsize, hname, hcolumns, hprimaryKey, hforeignKeys, hlabels⟩
  · rintro ⟨hsize, hname, hcolumns, hprimaryKey, hforeignKeys, hlabels⟩
    exact ⟨_, hname, _, hcolumns, _, hprimaryKey, _, hforeignKeys, _, hlabels, (), hsize, rfl⟩

/-- Putting columns and foreign keys into their normal forms is all there is to do within a table.
-/
theorem zipWith_normal_values {columns foreignKeys : List Json} {t : Table}
    (hcolumns : columns.map Column.normal = t.columns.map Column.toJson)
    (hforeignKeys : foreignKeys.map ForeignKey.normal = t.foreignKeys.map ForeignKey.toJson) :
    List.zipWith RecordField.normal layout
        [ .string t.name, .array columns, .strings t.primaryKey, .array foreignKeys,
          t.enumLabels.toJson ] = values t := by
  simp only [layout, List.zipWith_cons_cons, List.zipWith_nil_left, normalItems, hcolumns,
    hforeignKeys, EnumLabels.exact.stable]
  rfl

theorem exact : Exact ofJson normal toJson := by
  apply exact_record values (by decide) (fun _ => rfl)
  · intro found t
    rw [ofJson_object_iff]
    simp [layout, values, slot_eq_some_iff exact_string, slot_eq_some_iff exact_strings,
      slot_eq_some_iff (exact_list Column.exact), slot_eq_some_iff (exact_list ForeignKey.exact),
      slot_eq_some_iff EnumLabels.exact]
  · intro items t
    rw [ofJson_array_iff]
    simp [layout, values, slot_eq_some_iff exact_string, slot_eq_some_iff exact_strings,
      slot_eq_some_iff (exact_list Column.exact), slot_eq_some_iff (exact_list ForeignKey.exact),
      slot_eq_some_iff EnumLabels.exact]
  · intro v t
    cases v
    all_goals simp [ofJson, refuse]
  · intro t
    apply zipWith_normal_values
    · rw [List.map_map]
      exact List.map_congr_left fun c _ => Column.exact.stable c
    · rw [List.map_map]
      exact List.map_congr_left fun fk _ => ForeignKey.exact.stable fk

/-- **A table as it may be written**: it, its columns and its foreign keys each by names or by
positions. One column may be an object and the next an array. -/
def IsForm (t : Table) (v : Json) : Prop :=
  ∃ columns foreignKeys : List Json,
    List.Forall₂ (fun c => IsRecordForm (Column.toJson c)) t.columns columns ∧
    List.Forall₂ (fun fk => IsRecordForm (ForeignKey.toJson fk)) t.foreignKeys foreignKeys ∧
    IsRecordForm
      (.object
        [ ("name", .string t.name), ("columns", .array columns),
          ("primary_key", .strings t.primaryKey), ("foreign_keys", .array foreignKeys),
          ("enum_labels", t.enumLabels.toJson) ]) v

theorem map_normal_of_forall₂ {α : Type} {normal : Json → Json} {encode : α → Json}
    {IsForm : α → Json → Prop} (h : ∀ x v, IsForm x v → normal v = encode x) {xs : List α}
    {vs : List Json} (hforms : List.Forall₂ IsForm xs vs) : vs.map normal = xs.map encode := by
  induction hforms with
  | nil => rfl
  | cons hform _ ih => rw [List.map_cons, List.map_cons, h _ _ hform, ih]

/-- **Every way of writing a table is read as the table.** -/
theorem IsForm.ofJson_eq {t : Table} {v : Json} (h : t.IsForm v) : ofJson v = .ok t := by
  obtain ⟨columns, foreignKeys, hcolumns, hforeignKeys, hform⟩ := h
  let written : List Json :=
    [.string t.name, .array columns, .strings t.primaryKey, .array foreignKeys, t.enumLabels.toJson]
  rw [exact.iff, normal,
    normalRecord_of_isRecordForm layout written rfl (by decide) hform,
    zipWith_normal_values]
  · rfl
  · refine map_normal_of_forall₂ (fun c v hv => ?_) hcolumns
    exact normalRecord_of_isRecordForm Column.layout c.values rfl (by decide) hv
  · refine map_normal_of_forall₂ (fun fk v hv => ?_) hforeignKeys
    exact normalRecord_of_isRecordForm ForeignKey.layout fk.values rfl (by decide) hv

end Table

/-! ## Settings -/

namespace DatabaseSettings

def layout : List RecordField :=
  [ ⟨"host", none, id⟩, ⟨"port", some (.integer defaultPort.toNat), id⟩, ⟨"database", none, id⟩,
    ⟨"user", none, id⟩, ⟨"password", some (.string defaultPassword), id⟩,
    ⟨"schema", some (.string defaultSchema), id⟩, ⟨"ssl_mode", some (.string defaultSslMode), id⟩ ]

def normal : Json → Json := normalRecord layout

def values (s : DatabaseSettings) : List Json :=
  [ .string s.host, .integer s.port.toNat, .string s.database, .string s.user, .string s.password,
    .string s.schema, .string s.sslMode ]

theorem ofJson_object_iff {found : List (String × Json)} {s : DatabaseSettings} :
    ofJson (.object found) = .ok s ↔
      Given ((members found).find? "host") decodeString s.host ∧
      GivenOr ((members found).find? "port") decodeUnsigned16 defaultPort s.port ∧
      Given ((members found).find? "database") decodeString s.database ∧
      Given ((members found).find? "user") decodeString s.user ∧
      GivenOr ((members found).find? "password") decodeString defaultPassword s.password ∧
      GivenOr ((members found).find? "schema") decodeString defaultSchema s.schema ∧
      GivenOr ((members found).find? "ssl_mode") decodeString defaultSslMode s.sslMode := by
  simp only [ofJson, bind_eq_ok_iff, required_eq_ok_iff, pure_eq_ok_iff, ← field_eq_some_iff,
    ← exists_field_iff]
  constructor
  · rintro ⟨_, hdatabase, _, hhost, _, hpassword, _, hport, _, hschema, _, hsslMode, _, huser,
      _, rfl, _, rfl, _, rfl, rfl⟩
    exact ⟨hhost, ⟨_, hport, rfl⟩, hdatabase, huser, ⟨_, hpassword, rfl⟩, ⟨_, hschema, rfl⟩,
      ⟨_, hsslMode, rfl⟩⟩
  · rintro ⟨hhost, ⟨_, hport, hportD⟩, hdatabase, huser, ⟨_, hpassword, hpasswordD⟩,
      ⟨_, hschema, hschemaD⟩, ⟨_, hsslMode, hsslModeD⟩⟩
    refine ⟨_, hdatabase, _, hhost, _, hpassword, _, hport, _, hschema, _, hsslMode, _, huser,
      _, rfl, _, rfl, _, rfl, ?_⟩
    rw [hportD, hpasswordD, hschemaD, hsslModeD]

/-- What an array must have for the settings of the database: at least the first four, since the
user stands behind the port. -/
theorem ofJson_array_iff {items : List Json} {s : DatabaseSettings} :
    ofJson (.array items) = .ok s ↔ items.length ≤ 7 ∧
      Given items[0]? decodeString s.host ∧
      GivenOr items[1]? decodeUnsigned16 defaultPort s.port ∧
      Given items[2]? decodeString s.database ∧
      Given items[3]? decodeString s.user ∧
      GivenOr items[4]? decodeString defaultPassword s.password ∧
      GivenOr items[5]? decodeString defaultSchema s.schema ∧
      GivenOr items[6]? decodeString defaultSslMode s.sslMode := by
  simp only [ofJson, bind_eq_ok_iff, element_eq_ok_iff, elementD_eq_ok_iff, noneBeyond_eq_ok_iff,
    pure_eq_ok_iff]
  constructor
  · rintro ⟨_, hhost, _, hport, _, hdatabase, _, huser, _, hpassword, _, hschema, _, hsslMode, _,
      hsize, rfl⟩
    exact ⟨hsize, hhost, hport, hdatabase, huser, hpassword, hschema, hsslMode⟩
  · rintro ⟨hsize, hhost, hport, hdatabase, huser, hpassword, hschema, hsslMode⟩
    exact ⟨_, hhost, _, hport, _, hdatabase, _, huser, _, hpassword, _, hschema, _, hsslMode, (),
      hsize, rfl⟩

theorem exact : Exact ofJson normal toJson := by
  apply exact_record values (by decide) (fun _ => rfl)
  · intro found s
    rw [ofJson_object_iff]
    simp [layout, values, slot_eq_some_iff exact_string, slot_default_eq_some_iff exact_string,
      slot_default_eq_some_iff exact_unsigned16]
  · intro items s
    rw [ofJson_array_iff]
    simp [layout, values, slot_eq_some_iff exact_string, slot_default_eq_some_iff exact_string,
      slot_default_eq_some_iff exact_unsigned16]
  · intro v s
    cases v
    all_goals simp [ofJson, refuse]
  · intro s
    rfl

/-- The settings that need not be given. -/
def defaulted : List String := ["port", "password", "schema", "ssl_mode"]

/-- Settings of which the named ones have their defaults. -/
def reset (names : List String) (s : DatabaseSettings) : DatabaseSettings :=
  { s with
    port := if "port" ∈ names then defaultPort else s.port
    password := if "password" ∈ names then defaultPassword else s.password
    schema := if "schema" ∈ names then defaultSchema else s.schema
    sslMode := if "ssl_mode" ∈ names then defaultSslMode else s.sslMode }

/-- Settings of the database that are taken out are reset, if they need not be given. -/
theorem ofJson_without {names : List String} (h : ∀ name ∈ names, name ∈ defaulted)
    (s : DatabaseSettings) : ofJson (s.toJson.without names) = .ok (s.reset names) := by
  have hneeded : ∀ name, name ∉ defaulted → name ∉ names := fun name hname hmem =>
    hname (h name hmem)
  have hnames := nodup_names layout (by decide) s.values
  refine ofJson_object_iff.2 ⟨?_, ?_, ?_, ?_, ?_, ?_, ?_⟩
  · exact given_without exact_string hnames (hneeded _ (by decide)) rfl
  · exact givenOr_without exact_unsigned16 hnames names rfl _
  · exact given_without exact_string hnames (hneeded _ (by decide)) rfl
  · exact given_without exact_string hnames (hneeded _ (by decide)) rfl
  · exact givenOr_without exact_string hnames names rfl _
  · exact givenOr_without exact_string hnames names rfl _
  · exact givenOr_without exact_string hnames names rfl _

end DatabaseSettings

namespace GeneratorSettings

def layout : List RecordField :=
  [ ⟨"output_dir", some (.string defaultOutputDir), id⟩,
    ⟨"file_suffix", some (.string defaultFileSuffix), id⟩,
    ⟨"reference_suffix", some (.string defaultReferenceSuffix), id⟩,
    ⟨"excluded_tables", some (.strings defaultExcludedTables), id⟩,
    ⟨"dry_run", some (.bool false), id⟩ ]

def normal : Json → Json := normalRecord layout

def values (s : GeneratorSettings) : List Json :=
  [ .string s.outputDir, .string s.fileSuffix, .string s.referenceSuffix,
    .strings s.excludedTables, .bool s.dryRun ]

theorem ofJson_object_iff {found : List (String × Json)} {s : GeneratorSettings} :
    ofJson (.object found) = .ok s ↔
      GivenOr ((members found).find? "output_dir") decodePath defaultOutputDir s.outputDir ∧
      GivenOr ((members found).find? "file_suffix") decodeString defaultFileSuffix s.fileSuffix ∧
      GivenOr ((members found).find? "reference_suffix") decodeString defaultReferenceSuffix
        s.referenceSuffix ∧
      GivenOr ((members found).find? "excluded_tables") (decodeList decodeString)
        defaultExcludedTables s.excludedTables ∧
      GivenOr ((members found).find? "dry_run") decodeBool false s.dryRun := by
  simp only [ofJson, bind_eq_ok_iff, pure_eq_ok_iff, ← exists_field_iff]
  constructor
  · rintro ⟨_, hdryRun, _, hexcluded, _, hfileSuffix, _, houtputDir, _, hreference, rfl⟩
    exact ⟨⟨_, houtputDir, rfl⟩, ⟨_, hfileSuffix, rfl⟩, ⟨_, hreference, rfl⟩, ⟨_, hexcluded, rfl⟩,
      ⟨_, hdryRun, rfl⟩⟩
  · rintro ⟨⟨_, houtputDir, houtputDirD⟩, ⟨_, hfileSuffix, hfileSuffixD⟩,
      ⟨_, hreference, hreferenceD⟩, ⟨_, hexcluded, hexcludedD⟩, ⟨_, hdryRun, hdryRunD⟩⟩
    refine ⟨_, hdryRun, _, hexcluded, _, hfileSuffix, _, houtputDir, _, hreference, ?_⟩
    rw [houtputDirD, hfileSuffixD, hreferenceD, hexcludedD, hdryRunD]

theorem ofJson_array_iff {items : List Json} {s : GeneratorSettings} :
    ofJson (.array items) = .ok s ↔ items.length ≤ 5 ∧
      GivenOr items[0]? decodePath defaultOutputDir s.outputDir ∧
      GivenOr items[1]? decodeString defaultFileSuffix s.fileSuffix ∧
      GivenOr items[2]? decodeString defaultReferenceSuffix s.referenceSuffix ∧
      GivenOr items[3]? (decodeList decodeString) defaultExcludedTables s.excludedTables ∧
      GivenOr items[4]? decodeBool false s.dryRun := by
  simp only [ofJson, bind_eq_ok_iff, elementD_eq_ok_iff, noneBeyond_eq_ok_iff, pure_eq_ok_iff]
  constructor
  · rintro ⟨_, houtputDir, _, hfileSuffix, _, hreference, _, hexcluded, _, hdryRun, _, hsize, rfl⟩
    exact ⟨hsize, houtputDir, hfileSuffix, hreference, hexcluded, hdryRun⟩
  · rintro ⟨hsize, houtputDir, hfileSuffix, hreference, hexcluded, hdryRun⟩
    exact ⟨_, houtputDir, _, hfileSuffix, _, hreference, _, hexcluded, _, hdryRun, (), hsize, rfl⟩

theorem exact : Exact ofJson normal toJson := by
  apply exact_record values (by decide) (fun _ => rfl)
  · intro found s
    rw [ofJson_object_iff]
    simp [layout, values, givenOr_path_iff, slot_default_eq_some_iff exact_string,
      slot_default_eq_some_iff exact_strings, slot_default_eq_some_iff exact_bool]
  · intro items s
    rw [ofJson_array_iff]
    simp [layout, values, givenOr_path_iff, slot_default_eq_some_iff exact_string,
      slot_default_eq_some_iff exact_strings, slot_default_eq_some_iff exact_bool]
  · intro v s
    cases v
    all_goals simp [ofJson, refuse]
  · intro s
    rfl

/-- Settings of which the named ones have their defaults. None of them need be given. -/
def reset (names : List String) (s : GeneratorSettings) : GeneratorSettings where
  outputDir := if "output_dir" ∈ names then defaultOutputDir else s.outputDir
  fileSuffix := if "file_suffix" ∈ names then defaultFileSuffix else s.fileSuffix
  referenceSuffix :=
    if "reference_suffix" ∈ names then defaultReferenceSuffix else s.referenceSuffix
  excludedTables := if "excluded_tables" ∈ names then defaultExcludedTables else s.excludedTables
  dryRun := if "dry_run" ∈ names then false else s.dryRun

/-- Of the settings of the generator any may be taken out. -/
theorem ofJson_without (names : List String) (s : GeneratorSettings) :
    ofJson (s.toJson.without names) = .ok (s.reset names) := by
  have hnames := nodup_names layout (by decide) s.values
  refine ofJson_object_iff.2 ⟨?_, ?_, ?_, ?_, ?_⟩
  · exact givenOr_without exact_path hnames names rfl _
  · exact givenOr_without exact_string hnames names rfl _
  · exact givenOr_without exact_string hnames names rfl _
  · exact givenOr_without exact_strings hnames names rfl _
  · exact givenOr_without exact_bool hnames names rfl _

end GeneratorSettings

namespace Settings

def layout : List RecordField :=
  [ ⟨"database", none, DatabaseSettings.normal⟩,
    ⟨"generator", some GeneratorSettings.defaults.toJson, GeneratorSettings.normal⟩ ]

/-- **The normal form of settings**: objects for arrays, no unknown fields, and the default of every
setting that is absent. -/
def normal : Json → Json := normalRecord layout

def values (s : Settings) : List Json := [s.database.toJson, s.generator.toJson]

theorem ofJson_object_iff {found : List (String × Json)} {s : Settings} :
    ofJson (.object found) = .ok s ↔
      Given ((members found).find? "database") DatabaseSettings.ofJson s.database ∧
      GivenOr ((members found).find? "generator") GeneratorSettings.ofJson .defaults
        s.generator := by
  simp only [ofJson, bind_eq_ok_iff, required_eq_ok_iff, pure_eq_ok_iff, ← field_eq_some_iff,
    ← exists_field_iff]
  constructor
  · rintro ⟨_, hdatabase, _, hgenerator, _, rfl, rfl⟩
    exact ⟨hdatabase, ⟨_, hgenerator, rfl⟩⟩
  · rintro ⟨hdatabase, ⟨_, hgenerator, hgeneratorD⟩⟩
    refine ⟨_, hdatabase, _, hgenerator, _, rfl, ?_⟩
    rw [hgeneratorD]

/-- What an array must have for settings. The settings of the generator may be left out. -/
theorem ofJson_array_iff {items : List Json} {s : Settings} :
    ofJson (.array items) = .ok s ↔ items.length ≤ 2 ∧
      Given items[0]? DatabaseSettings.ofJson s.database ∧
      GivenOr items[1]? GeneratorSettings.ofJson .defaults s.generator := by
  simp only [ofJson, bind_eq_ok_iff, element_eq_ok_iff, elementD_eq_ok_iff, noneBeyond_eq_ok_iff,
    pure_eq_ok_iff]
  constructor
  · rintro ⟨_, hdatabase, _, hgenerator, _, hsize, rfl⟩
    exact ⟨hsize, hdatabase, hgenerator⟩
  · rintro ⟨hsize, hdatabase, hgenerator⟩
    exact ⟨_, hdatabase, _, hgenerator, (), hsize, rfl⟩

theorem exact : Exact ofJson normal toJson := by
  apply exact_record values (by decide) (fun _ => rfl)
  · intro found s
    rw [ofJson_object_iff]
    simp [layout, values, slot_eq_some_iff DatabaseSettings.exact,
      slot_default_eq_some_iff GeneratorSettings.exact]
  · intro items s
    rw [ofJson_array_iff]
    simp [layout, values, slot_eq_some_iff DatabaseSettings.exact,
      slot_default_eq_some_iff GeneratorSettings.exact]
  · intro v s
    cases v
    all_goals simp [ofJson, refuse]
  · intro s
    simp only [layout, values, List.zipWith_cons_cons, List.zipWith_nil_left,
      DatabaseSettings.exact.stable, GeneratorSettings.exact.stable]

/-- **Settings as they may be written**: they and both of their groups each by names or by
positions. -/
def IsForm (s : Settings) (v : Json) : Prop :=
  ∃ database generator : Json,
    IsRecordForm s.database.toJson database ∧ IsRecordForm s.generator.toJson generator ∧
    IsRecordForm (.object [("database", database), ("generator", generator)]) v

/-- **Every way of writing settings is read as the settings.** -/
theorem IsForm.ofJson_eq {s : Settings} {v : Json} (h : s.IsForm v) : ofJson v = .ok s := by
  obtain ⟨database, generator, hdatabase, hgenerator, hform⟩ := h
  have hd : DatabaseSettings.normal database = s.database.toJson :=
    normalRecord_of_isRecordForm DatabaseSettings.layout s.database.values rfl (by decide) hdatabase
  have hg : GeneratorSettings.normal generator = s.generator.toJson :=
    normalRecord_of_isRecordForm GeneratorSettings.layout s.generator.values rfl (by decide)
      hgenerator
  have hvalues : List.zipWith RecordField.normal layout [database, generator] = s.values := by
    simp only [layout, values, List.zipWith_cons_cons, List.zipWith_nil_left, hd, hg]
  rw [exact.iff, normal,
    normalRecord_of_isRecordForm layout [database, generator] rfl
      (by decide) hform, hvalues]
  rfl

/-- Settings as they are written, but for settings that are taken out: named ones of either group,
or the second group as a whole. -/
def toJsonWithout (s : Settings) (database generator : List String) (whole : Bool) : Json :=
  .object
    (("database", s.database.toJson.without database) ::
      if whole then [] else [("generator", s.generator.toJson.without generator)])

/-- **Settings that are taken out come back as their defaults**, in any combination of those that
have some. -/
theorem ofJson_toJsonWithout (s : Settings) {database : List String}
    (h : ∀ name ∈ database, name ∈ DatabaseSettings.defaulted) (generator : List String)
    (whole : Bool) :
    ofJson (s.toJsonWithout database generator whole) =
      .ok ⟨s.database.reset database,
        if whole then .defaults else s.generator.reset generator⟩ := by
  rw [toJsonWithout, ofJson_object_iff]
  have hdatabase := DatabaseSettings.ofJson_without h s.database
  have hnames := nodup_names layout (by decide)
  cases whole with
  | true =>
    refine ⟨⟨_, ?_, hdatabase⟩, Or.inl ⟨?_, rfl⟩⟩
    · exact find?_members (hnames [s.database.toJson.without database]) "database"
    · exact find?_members (hnames [s.database.toJson.without database]) "generator"
  | false =>
    refine ⟨⟨_, ?_, hdatabase⟩, Or.inr ⟨_, ?_, GeneratorSettings.ofJson_without generator _⟩⟩
    · exact find?_members (hnames
        [s.database.toJson.without database, s.generator.toJson.without generator]) "database"
    · exact find?_members (hnames
        [s.database.toJson.without database, s.generator.toJson.without generator]) "generator"

end Settings

namespace Json

/-- **A form of data that loses nothing**, and of which exactly the variants are accepted. -/
structure LosesNothing {α : Type} (decode : Decoder α) (normal : Json → Json) (encode : α → Json)
    (IsForm : α → Json → Prop) : Prop where
  /-- What is written is read as it was, -/
  roundTrip : ∀ x, decode (encode x) = .ok x
  /-- Records may be given by names or by positions, each as it likes. -/
  forms : ∀ x v, IsForm x v → decode v = .ok x
  /-- Nothing else is accepted than what has the written form for its normal form. -/
  variants : ∀ v x, decode v = .ok x ↔ normal v = encode x

/-- **Tables and settings lose nothing in structured data.** Settings that are taken out come back
as their defaults. -/
theorem losesNothing :
    LosesNothing Table.ofJson Table.normal Table.toJson Table.IsForm ∧
      LosesNothing Settings.ofJson Settings.normal Settings.toJson Settings.IsForm ∧
      ∀ (s : Settings) (database generator : List String) (whole : Bool),
        (∀ name ∈ database, name ∈ DatabaseSettings.defaulted) →
        Settings.ofJson (s.toJsonWithout database generator whole) =
          .ok ⟨s.database.reset database,
            if whole then .defaults else s.generator.reset generator⟩ := by
  refine ⟨⟨?_, ?_, ?_⟩, ⟨?_, ?_, ?_⟩, ?_⟩
  · exact Table.exact.roundTrip
  · exact fun t v h => h.ofJson_eq
  · exact Table.exact.iff
  · exact Settings.exact.roundTrip
  · exact fun s v h => h.ofJson_eq
  · exact Settings.exact.iff
  · exact fun s _ generator whole h => s.ofJson_toJsonWithout h generator whole

/-- A group of settings by position, up to the last that is needed, and nothing of the other. -/
example : Settings.ofJson (.object [("comment", .null),
      ("database", .array [.string "localhost", .integer 5433, .string "shop", .string "app"])]) =
    .ok ⟨⟨"localhost", 5433, "shop", "app", DatabaseSettings.defaultPassword,
      DatabaseSettings.defaultSchema, DatabaseSettings.defaultSslMode⟩, .defaults⟩ := by rfl

end Json

end CatalogEntities
