import CatalogEntities.Proofs.Catalog
import CatalogEntities.Proofs.CommandLine
import CatalogEntities.Proofs.Run.References
import CatalogEntities.Proofs.Run.Turn

/-!
# `Proofs/Run/Accounting.lean` — what becomes of every name

Between a request and a report, names pass through a selection, the claims on file names and the
jobs. At each of these every name goes on in exactly one list, so that in the end it is in exactly
one of three: the tables of the files, the tables whose file name another has, and the names that
are missing (`Accounted`).

Nothing of a request matters for the tables but which names it holds, and nothing of the exclusions
matters unless it holds none.

The statements are about catalogs that list what exists (`Catalog.Lists`). Sessions with a database
are such catalogs, so their runs account for every name too (`accounted_overDatabase`). *Once* is
said by counting in the three lists put together, which leaves no room for a name that is in two of
them or twice in one.
-/

set_option autoImplicit false

namespace CatalogEntities.Run

variable {catalog : Catalog} {settings : GeneratorSettings} {requested existing : List String}
  {schedule : Schedule} {fs : FileSystem} {o : Outcome}

/-- **Every name is accounted for**, given the tables that exist, those that are excluded and those
that are asked for. -/
structure Accounted (existing excluded requested generated missing colliding : List String) :
    Prop where
  /-- If tables are asked for, each name of the request is in one list, once, and no other is. -/
  asked : requested ≠ [] → ∀ name,
    (generated ++ missing ++ colliding).count name = if name ∈ requested then 1 else 0
  /-- If none is, so it is with the tables that exist and are not excluded. -/
  unasked : requested = [] → missing = [] ∧ ∀ name,
    (generated ++ colliding).count name = if name ∈ existing ∧ name ∉ excluded then 1 else 0
  /-- Missing is what was asked for and does not exist; nothing else is, and no reason but that. -/
  absent : ∀ name, name ∈ missing ↔ name ∈ requested ∧ name ∉ existing
  /-- What is missing stands in the order in which it was first asked for. -/
  inOrderAsked : missing.Pairwise fun a b => requested.idxOf a < requested.idxOf b
  generatedAscending : generated.Pairwise (· < ·)
  collidingAscending : colliding.Pairwise (· < ·)

/-- **Selection and claims account for every name**, before anything is described or written. -/
theorem accounted_select (h : existing.Pairwise (· < ·)) (requested excluded : List String)
    (suffix : String) : Accounted existing excluded requested
      (Claim.claimed suffix (TableSet.select existing requested excluded).found)
      (TableSet.select existing requested excluded).missing
      (Claim.skipped suffix (TableSet.select existing requested excluded).found) := by
  have hfound := h.sublist (TableSet.found_select_sublist existing requested excluded)
  have horder := TableSet.pairwise_missing_select existing requested excluded
  have hfoundNodup : (TableSet.select existing requested excluded).found.Nodup := by
    refine hfound.imp ?_
    rintro a _ hlt rfl
    exact String.lt_irrefl a hlt
  have hmissingNodup : (TableSet.select existing requested excluded).missing.Nodup := by
    refine horder.imp ?_
    rintro a _ hlt rfl
    exact Nat.lt_irrefl _ hlt
  -- the claims split what was found
  have hclaims : ∀ name,
      (Claim.claimed suffix (TableSet.select existing requested excluded).found).count name +
        (Claim.skipped suffix (TableSet.select existing requested excluded).found).count name =
      if name ∈ (TableSet.select existing requested excluded).found then 1 else 0 := by
    intro name
    rw [← List.count_append, (Claim.perm_claimed_skipped suffix _).count_eq, hfoundNodup.count]
  refine ⟨fun hasked name => ?_, fun hnone => ?_, fun name => TableSet.mem_missing_select, horder,
    hfound.sublist (Claim.claimed_sublist _ _), hfound.sublist (Claim.skipped_sublist _ _)⟩
  · -- a name of the request exists and was claimed or skipped, or does not exist and is missing
    have hname := hclaims name
    rw [List.count_append, List.count_append, hmissingNodup.count]
    simp only [TableSet.mem_found_select hasked] at hname
    simp only [TableSet.mem_missing_select]
    by_cases hrequested : name ∈ requested
    · by_cases hexisting : name ∈ existing
      · simp only [hrequested, hexisting, and_self, not_true_eq_false, and_false, if_true,
          if_false] at hname ⊢
        omega
      · simp only [hrequested, hexisting, false_and, not_false_eq_true, and_self, if_true,
          if_false] at hname ⊢
        omega
    · simp only [hrequested, false_and, and_false, if_false] at hname ⊢
      omega
  · subst hnone
    refine ⟨by rw [TableSet.select_nil], fun name => ?_⟩
    rw [List.count_append, hclaims name]
    simp only [TableSet.mem_found_select_nil]

/-- A run that goes well reports the selection and the claims as they are. -/
theorem accounted_of_ok (h : catalog.Lists existing)
    (hrun : (scheduled catalog settings requested schedule fs).outcome = .ok o) :
    Accounted existing settings.excludedTables requested (o.files.map (·.table)) o.missing
      o.colliding := by
  obtain ⟨set, files, hset, hfiles, rfl⟩ := reported_of_ok hrun
  rw [tables_of_list hset] at hfiles
  obtain rfl := h.select _ _ _ hset
  rw [report, map_table_summary h.named hfiles]
  exact accounted_select h.ascending _ _ _

/-! ## What does not matter -/

theorem path_excluded (excluded : List String) :
    Job.path { settings with excludedTables := excluded } = Job.path settings := rfl

theorem stage_excluded (excluded : List String) (file : EntityFile) (fs : FileSystem) :
    Job.stage { settings with excludedTables := excluded } file fs =
      Job.stage settings file fs := by
  unfold Job.stage
  rw [path_excluded]

theorem publish_excluded (excluded : List String) (file : EntityFile) (fs : FileSystem) :
    Job.publish { settings with excludedTables := excluded } file fs =
      Job.publish settings file fs := by
  unfold Job.publish Job.summary
  rw [path_excluded]

/-- What is excluded is looked at in the listing, and nowhere else. -/
theorem step_excluded (excluded : List String) (job : Job) (fs : FileSystem) :
    job.step catalog { settings with excludedTables := excluded } fs =
      job.step catalog settings fs := by
  unfold Job.step
  cases job with
  | waiting table => rfl
  | rendered file => exact stage_excluded excluded file fs
  | staged file => exact publish_excluded excluded file fs
  | finished file => rfl

/-- **A request by name takes no notice of what is excluded.** -/
theorem scheduled_excluded (h : catalog.Lists existing) (hasked : requested ≠ [])
    {set other : TableSet} {excluded : List String}
    (hset : catalog.list requested settings.excludedTables = .ok set)
    (hother : catalog.list requested excluded = .ok other) :
    scheduled catalog { settings with excludedTables := excluded } requested schedule fs =
      scheduled catalog settings requested schedule fs := by
  refine scheduled_congr rfl ?_ fun turn _ => step_excluded excluded turn.job turn.files
  rw [hset, hother, h.select _ _ _ hset, h.select _ _ _ hother,
    TableSet.select_excluded hasked settings.excludedTables excluded]

/-- **Requests of the same names** lead to the same files. -/
structure Agree (o other : Outcome) : Prop where
  files : other.files = o.files
  colliding : other.colliding = o.colliding
  missing : ∀ name, name ∈ other.missing ↔ name ∈ o.missing

/-- **Only the names of a request matter**: not their order, not how often one comes, and not which
of two runs was first. -/
theorem agree_of_same_names (h : catalog.Lists existing)
    (hrun : (scheduled catalog settings requested schedule fs).outcome = .ok o)
    {others : List String} (hnames : ∀ name, name ∈ others ↔ name ∈ requested)
    {schedule' : Schedule} {fs' : FileSystem} {other : Outcome}
    (hother : (scheduled catalog settings others schedule' fs').outcome = .ok other) :
    Agree o other := by
  obtain ⟨set, files, hset, hfiles, rfl⟩ := reported_of_ok hrun
  obtain ⟨set', files', hset', hfiles', rfl⟩ := reported_of_ok hother
  rw [tables_of_list hset] at hfiles
  rw [tables_of_list hset'] at hfiles'
  obtain rfl := h.select _ _ _ hset
  obtain rfl := h.select _ _ _ hset'
  have hfound : (TableSet.select existing others settings.excludedTables).found =
      (TableSet.select existing requested settings.excludedTables).found :=
    TableSet.found_select_congr hnames
  rw [hfound] at hfiles'
  refine ⟨?_, ?_, fun name => ?_⟩
  · rw [report, report, rightUnique_renders.forall₂ hfiles' hfiles]
  · rw [report, report, hfound]
  · rw [report, report, TableSet.mem_missing_select, TableSet.mem_missing_select, hnames]

/-! ## A run that goes well -/

/-- **A run that goes well accounts for every name.** -/
structure Accounts (catalog : Catalog) (settings : GeneratorSettings)
    (existing requested : List String) (schedule : Schedule) (fs : FileSystem) (o : Outcome) :
    Prop where
  accounted : Accounted existing settings.excludedTables requested (o.files.map (·.table))
    o.missing o.colliding
  /-- A request by name takes no notice of what is excluded. -/
  excluded : requested ≠ [] → ∀ excluded other, catalog.list requested excluded = .ok other →
    scheduled catalog { settings with excludedTables := excluded } requested schedule fs =
      scheduled catalog settings requested schedule fs
  /-- The order of a request does not matter, nor how often it holds a name. -/
  sameNames : ∀ others, (∀ name, name ∈ others ↔ name ∈ requested) → ∀ schedule' fs' other,
    (scheduled catalog settings others schedule' fs').outcome = .ok other → Agree o other
  /-- Nor how its names were written on a command line. -/
  written : ∀ mentions : List CommandLine.Mention, (∀ mention ∈ mentions, mention.IsPlain) →
    (∀ name, (∃ mention ∈ mentions, mention.table = name) ↔ name ∈ requested) →
    ∃ others, CommandLine.Command.generateOfWords (mentions.flatMap CommandLine.Mention.words) =
        .ok (.generate others none none false) ∧
      ∀ schedule' fs' other,
        (scheduled catalog settings others schedule' fs').outcome = .ok other → Agree o other

/-- **Every name of a request is accounted for exactly once**, in every run that goes well. -/
theorem accounts (h : catalog.Lists existing)
    (hrun : (scheduled catalog settings requested schedule fs).outcome = .ok o) :
    Accounts catalog settings existing requested schedule fs o where
  accounted := accounted_of_ok h hrun
  excluded hasked excluded other hother := by
    obtain ⟨set, -, hset, -, -⟩ := reported_of_ok hrun
    exact scheduled_excluded h hasked hset hother
  sameNames others hnames schedule' fs' other hother := agree_of_same_names h hrun hnames hother
  written mentions hplain hnames := by
    refine ⟨_, CommandLine.generateOfWords_mentions hplain, fun schedule' fs' other hother => ?_⟩
    refine agree_of_same_names h hrun (fun name => ?_) hother
    rw [CommandLine.Mention.mem_request, hnames]

/-- **A run over a database accounts for every name** of its schema. All that is asked of the server
is that no two base tables of the schema have one name, which no database allows; it may refuse any
request, and then the run does not go well. -/
theorem accounted_overDatabase {network : Network} {c : Settings}
    (hrun : (overDatabase network c requested schedule fs).outcome = .ok o) :
    ∃ session, Session.connect network c.database = .ok session ∧
      ((session.server.tableNames session.schema fun _ => true).Nodup →
        Accounted (session.server.tableNames session.schema fun _ => true)
            c.generator.excludedTables requested (o.files.map (·.table)) o.missing o.colliding ∧
          ∀ others, (∀ name, name ∈ others ↔ name ∈ requested) → ∀ schedule' fs' other,
            (overDatabase network c others schedule' fs').outcome = .ok other →
              Agree o other) := by
  -- both runs go over the catalog of one session, since connecting does not look at the request
  cases hconnect : Session.connect network c.database with
  | error f =>
    simp only [overDatabase, hconnect] at hrun
    exact absurd hrun (by simp)
  | ok session =>
    simp only [overDatabase, hconnect] at hrun
    refine ⟨session, rfl, fun hnodup => ?_⟩
    have hlists := session.backs_catalog.lists hnodup
    refine ⟨accounted_of_ok hlists hrun, fun others hnames schedule' fs' other hother => ?_⟩
    simp only [overDatabase, hconnect] at hother
    exact agree_of_same_names hlists hrun hnames hother

/-- Tables held in memory are a catalog of their names. -/
theorem lists_catalog {c : MemoryCatalog} (h : ∀ p ∈ c.tables.entries, p.2.name = p.1) :
    c.catalog.Lists c.tables.names where
  ascending := List.pairwise_map.2 c.tables.ascending
  select requested excluded set hset := by
    have hlist : c.list requested excluded = .ok set := hset
    unfold MemoryCatalog.list at hlist
    split at hlist
    · exact absurd hlist (by simp)
    · exact (Except.ok.inj hlist).symm
  named _ _ := name_of_describe h

/-- Three tables, two of which have one file name. -/
def crowdedShop : MemoryCatalog := .ofTables
  (["orders", "order_items", "order__items"].map fun name => ⟨name, [], [], [], .empty⟩)

/-- A request with repetitions, for a name that is missing and for one that is excluded. -/
def crowdedRequest : List String :=
  ["orders", "nothing", "order_items", "orders", "order__items", "nothing"]

def crowdedSettings : GeneratorSettings :=
  { settingsFor "out" with excludedTables := ["orders"] }

def crowdedOutcome : Outcome where
  dryRun := false
  files :=
    [ ⟨"order__items", "out/OrderItems.entity.ts", 243⟩,
      ⟨"orders", "out/Orders.entity.ts", 233⟩ ]
  missing := ["nothing"]
  colliding := ["order_items"]

theorem accounts_crowdedShop :
    (crowdedShop.catalog.Lists ["order__items", "order_items", "orders"] ∧
      (scheduled crowdedShop.catalog crowdedSettings crowdedRequest [1, 0] usedMachine).outcome =
        .ok crowdedOutcome) ∧
    Accounts crowdedShop.catalog crowdedSettings ["order__items", "order_items", "orders"]
      crowdedRequest [1, 0] usedMachine crowdedOutcome := by
  have hlists : crowdedShop.catalog.Lists ["order__items", "order_items", "orders"] :=
    lists_catalog (c := crowdedShop) (by decide +kernel)
  have hrun : (scheduled crowdedShop.catalog crowdedSettings crowdedRequest [1, 0]
      usedMachine).outcome = .ok crowdedOutcome := by decide +kernel
  exact ⟨⟨hlists, hrun⟩, accounts hlists hrun⟩

end CatalogEntities.Run
