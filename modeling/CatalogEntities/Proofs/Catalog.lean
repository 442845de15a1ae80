import CatalogEntities.Database.Session
import Mathlib.Data.List.Nodup

/-!
# `Proofs/Catalog.lean` — what is relied on in a catalog

A run asks a catalog for a listing and for descriptions. Of the listing it relies on that it selects
from names in order, and of a description that it is of the table that was asked for: a catalog
**lists** some tables if it does both (`Catalog.Lists`). What is selected depends on which names a
request holds, and on nothing else of it; only what is missing keeps the order of the request.

A session with a database is such a catalog. What it is asked takes one query or four, and either
all are answered or one is refused (`Session.list_cases`, `Session.describe_cases`). A description
that fails names a query that the session has refused; which one, if it refuses several, is left
open (`Session.Backs`). Connecting makes a session or fails for one reason
(`Session.connect_cases`).

Statements on runs are made of catalogs that list, or of catalogs that a session backs, and never of
sessions themselves. A catalog that orders its four queries in another way, or sends them at once,
is covered by them too.
-/

set_option autoImplicit false

namespace CatalogEntities

/-- **A catalog of some tables**, whose names are `existing`. It may fail whenever it is asked; what
it answers if it does not is all that is said. -/
structure Catalog.Lists (catalog : Catalog) (existing : List String) : Prop where
  /-- No name comes twice, and the order is that of the names. -/
  ascending : existing.Pairwise (· < ·)
  select : ∀ requested excluded set, catalog.list requested excluded = .ok set →
    set = .select existing requested excluded
  named : ∀ table t, catalog.describe table = .ok t → t.name = table

/-! ## What is selected -/

namespace TableSet

variable {existing requested excluded : List String} {name : String}

theorem found_select_sublist (existing requested excluded : List String) :
    (select existing requested excluded).found.Sublist existing := by
  unfold select
  split
  · exact List.filter_sublist
  · exact List.filter_sublist

theorem select_nil :
    select existing [] excluded = ⟨existing.filter fun name => !excluded.contains name, []⟩ := rfl

theorem select_of_ne_nil (h : requested ≠ []) : select existing requested excluded =
    .partition requested (existing.filter requested.contains) := by
  rw [select, if_neg (by simpa using h)]

theorem mem_found_select_nil :
    name ∈ (select existing [] excluded).found ↔ name ∈ existing ∧ name ∉ excluded := by
  simp [select_nil]

theorem mem_found_select (h : requested ≠ []) :
    name ∈ (select existing requested excluded).found ↔ name ∈ existing ∧ name ∈ requested := by
  simp [select_of_ne_nil h, partition]

theorem mem_missing_select :
    name ∈ (select existing requested excluded).missing ↔ name ∈ requested ∧ name ∉ existing := by
  by_cases h : requested = []
  · simp [h, select_nil]
  · rw [select_of_ne_nil h, partition, List.mem_eraseDups, List.mem_filter]
    constructor
    · rintro ⟨hrequested, hexisting⟩
      exact ⟨hrequested, by simpa [hrequested] using hexisting⟩
    · rintro ⟨hrequested, hexisting⟩
      exact ⟨hrequested, by simp [hexisting]⟩

/-- Of some names of a list, each is kept where it stands first. -/
theorem pairwise_eraseDups_filter (keeps : String → Bool) (names : List String) :
    (names.filter keeps).eraseDups.Pairwise fun a b => names.idxOf a < names.idxOf b := by
  induction names generalizing keeps with
  | nil => exact .nil
  | cons first rest ih =>
    -- names other than the first stand one further behind than in the rest
    have hrest : ∀ keeps : String → Bool, keeps first = false →
        (rest.filter keeps).eraseDups.Pairwise
          fun a b => (first :: rest).idxOf a < (first :: rest).idxOf b := by
      intro keeps hfirst
      have hne : ∀ {name}, name ∈ (rest.filter keeps).eraseDups → first ≠ name := by
        rintro name hname rfl
        rw [List.mem_eraseDups, List.mem_filter, hfirst] at hname
        exact absurd hname.2 (by simp)
      refine (ih keeps).imp_of_mem fun ha hb hlt => ?_
      rw [List.idxOf_cons_ne _ (hne ha), List.idxOf_cons_ne _ (hne hb)]
      exact Nat.succ_lt_succ hlt
    cases hfirst : keeps first with
    | false =>
      rw [List.filter_cons_of_neg (by simp [hfirst])]
      exact hrest keeps hfirst
    | true =>
      rw [List.filter_cons_of_pos hfirst, List.eraseDups_cons, List.filter_filter]
      refine List.pairwise_cons.2 ⟨fun name hname => ?_, hrest _ (by simp)⟩
      rw [List.mem_eraseDups, List.mem_filter] at hname
      have hne : first ≠ name := by
        rintro rfl
        exact absurd hname.2 (by simp)
      rw [List.idxOf_cons_self, List.idxOf_cons_ne _ hne]
      exact Nat.succ_pos _

/-- What is missing is told in the order in which it was asked for, each name once. -/
theorem pairwise_missing_select (existing requested excluded : List String) :
    (select existing requested excluded).missing.Pairwise
      fun a b => requested.idxOf a < requested.idxOf b := by
  by_cases h : requested = []
  · rw [h, select_nil]
    exact .nil
  · rw [select_of_ne_nil h]
    exact pairwise_eraseDups_filter _ requested

/-- Names are only excluded if nothing is asked for. -/
theorem select_excluded (h : requested ≠ []) (excluded other : List String) :
    select existing requested other = select existing requested excluded := by
  rw [select_of_ne_nil h, select_of_ne_nil h]

/-- **Requests of the same names find the same tables.** -/
theorem found_select_congr {other : List String} (h : ∀ name, name ∈ other ↔ name ∈ requested) :
    (select existing other excluded).found = (select existing requested excluded).found := by
  by_cases hnil : requested = []
  · have hother : other = [] := by
      refine List.eq_nil_iff_forall_not_mem.2 fun name hname => ?_
      rw [h, hnil] at hname
      exact absurd hname List.not_mem_nil
    rw [hnil, hother]
  · have hother : other ≠ [] := by
      rintro rfl
      exact hnil (List.eq_nil_iff_forall_not_mem.2 fun name hname =>
        absurd ((h name).2 hname) List.not_mem_nil)
    rw [select_of_ne_nil hnil, select_of_ne_nil hother]
    refine List.filter_congr fun name _ => ?_
    rw [Bool.eq_iff_iff, List.contains_iff_mem, List.contains_iff_mem]
    exact h name

end TableSet

/-! ## Sessions -/

theorem pairwise_mergeSort_names (names : List String) : names.mergeSort.Pairwise (· ≤ ·) := by
  refine (List.pairwise_mergeSort ?_ ?_ names).imp fun hle => of_decide_eq_true hle
  · intro a b c hab hbc
    exact decide_eq_true (String.le_trans (of_decide_eq_true hab) (of_decide_eq_true hbc))
  · intro a b
    simpa using String.le_total a b

/-- The tables that a test accepts are those of all that it accepts. -/
theorem DatabaseServer.tableNames_eq_filter (server : DatabaseServer) (schema : String)
    (accepts : String → Bool) : server.tableNames schema accepts =
      (server.tableNames schema fun _ => true).filter accepts := by
  refine List.Perm.eq_of_pairwise (fun _ _ _ _ => String.le_antisymm)
    (pairwise_mergeSort_names _) ((pairwise_mergeSort_names _).filter _) ?_
  refine (List.mergeSort_perm _ _).trans (.trans ?_ ((List.mergeSort_perm _ _).filter _).symm)
  rw [List.filter_map, List.filter_filter]
  refine .of_eq (congrArg _ (List.filter_congr fun t _ => ?_))
  simp [Bool.and_comm]

/-- The request that lists the tables of a run. -/
def Query.listing (schema : String) (requested excluded : List String) : Query :=
  if requested.isEmpty then .listAll schema excluded else .listRequested schema requested

namespace Session

variable {s : Session} {table : String}

theorem ask_const {α β : Type} (s : Session) (query : Query) (a : α) (b : β) :
    s.ask query b = (s.ask query a).map fun _ => b := by
  unfold ask
  split
  · split <;> rfl
  · rfl

/-- **A query about a table is refused or answered**, and what comes after it goes on from there. -/
theorem askAbout_bind {α β : Type} (s : Session) (table : String) (query : TableQuery) (rows : α)
    (rest : α → Except Failure β) :
    (∃ fault, s.ask (.describe query s.schema table) () = .error fault ∧
        (s.askAbout table query rows >>= rest) = .error (.catalogQuery query table fault)) ∨
      (s.ask (.describe query s.schema table) () = .ok () ∧
        (s.askAbout table query rows >>= rest) = rest rows) := by
  rw [askAbout, ask_const s _ () rows]
  cases s.ask (.describe query s.schema table) () with
  | error fault => exact Or.inl ⟨fault, rfl, rfl⟩
  | ok _ => exact Or.inr ⟨rfl, rfl⟩

/-- **A description takes all four queries**; the first that is refused fails it. -/
theorem describe_cases (s : Session) (table : String) :
    (∃ query fault, s.ask (.describe query s.schema table) () = .error fault ∧
        s.describe table = .error (.catalogQuery query table fault)) ∨
      ((∀ query, s.ask (.describe query s.schema table) () = .ok ()) ∧
        s.describe table = .ok { s.server.table s.schema table with name := table }) := by
  -- one query after the other: each is refused, and that is the answer, or the next is asked
  unfold describe
  dsimp only
  rcases s.askAbout_bind table .columns (s.server.table s.schema table).columns _ with
    ⟨fault, hfault, heq⟩ | ⟨hcolumns, heq⟩
  · exact Or.inl ⟨.columns, fault, hfault, heq⟩
  rw [heq]
  rcases s.askAbout_bind table .primaryKey (s.server.table s.schema table).primaryKey _ with
    ⟨fault, hfault, heq⟩ | ⟨hprimaryKey, heq⟩
  · exact Or.inl ⟨.primaryKey, fault, hfault, heq⟩
  rw [heq]
  rcases s.askAbout_bind table .foreignKeys (s.server.table s.schema table).foreignKeys _ with
    ⟨fault, hfault, heq⟩ | ⟨hforeignKeys, heq⟩
  · exact Or.inl ⟨.foreignKeys, fault, hfault, heq⟩
  rw [heq]
  rcases s.askAbout_bind table .enumLabels (s.server.table s.schema table).enumLabels _ with
    ⟨fault, hfault, heq⟩ | ⟨henumLabels, heq⟩
  · exact Or.inl ⟨.enumLabels, fault, hfault, heq⟩
  rw [heq]
  refine Or.inr ⟨fun query => ?_, rfl⟩
  cases query with
  | columns => exact hcolumns
  | primaryKey => exact hprimaryKey
  | foreignKeys => exact hforeignKeys
  | enumLabels => exact henumLabels

theorem describe_of_answered (h : ∀ query, s.ask (.describe query s.schema table) () = .ok ()) :
    s.describe table = .ok { s.server.table s.schema table with name := table } := by
  rcases s.describe_cases table with ⟨query, _, hrefused, -⟩ | ⟨-, heq⟩
  · exact absurd ((h query).symm.trans hrefused) (by simp)
  · exact heq

/-- **A catalog on a session.** Listing is up to the session; a description fails with a query that
the session refuses, and succeeds if it refuses none. -/
structure Backs (s : Session) (catalog : Catalog) : Prop where
  list : ∀ requested excluded, catalog.list requested excluded = s.list requested excluded
  answered : ∀ table t, catalog.describe table = .ok t →
    t.name = table ∧ ∀ query, s.ask (.describe query s.schema table) () = .ok ()
  refused : ∀ table f, catalog.describe table = .error f →
    ∃ query fault, f = .catalogQuery query table fault ∧
      s.ask (.describe query s.schema table) () = .error fault

/-- **A session backs its own catalog.** -/
theorem backs_catalog (s : Session) : s.Backs s.catalog where
  list _ _ := rfl
  answered table t h := by
    rcases s.describe_cases table with ⟨query, fault, -, hf⟩ | ⟨hanswered, hu⟩
    · exact absurd (hf.symm.trans h) (by simp)
    · rw [← Except.ok.inj (hu.symm.trans h)]
      exact ⟨rfl, hanswered⟩
  refused table f h := by
    rcases s.describe_cases table with ⟨query, fault, hrefused, hf⟩ | ⟨-, hu⟩
    · exact ⟨query, fault, Except.error.inj (h.symm.trans hf), hrefused⟩
    · exact absurd (hu.symm.trans h) (by simp)

theorem names_cases (s : Session) (query : Query) (accepts : String → Bool) :
    (∃ fault, s.ask query () = .error fault ∧
        s.names query accepts = .error (.connection fault)) ∨
      (s.ask query () = .ok () ∧
        s.names query accepts =
          .ok ((s.server.tableNames s.schema fun _ => true).filter accepts)) := by
  rw [names, ask_const s query () (s.server.tableNames s.schema accepts),
    ← DatabaseServer.tableNames_eq_filter]
  cases s.ask query () with
  | error fault => exact Or.inl ⟨fault, rfl, rfl⟩
  | ok _ => exact Or.inr ⟨rfl, rfl⟩

/-- **A listing is one request**, which counts as one of the connection if it is refused. -/
theorem list_cases (s : Session) (requested excluded : List String) :
    (∃ fault, s.ask (.listing s.schema requested excluded) () = .error fault ∧
        s.list requested excluded = .error (.connection fault)) ∨
      (s.ask (.listing s.schema requested excluded) () = .ok () ∧
        s.list requested excluded =
          .ok (.select (s.server.tableNames s.schema fun _ => true) requested excluded)) := by
  unfold Session.list Query.listing
  by_cases hnil : requested = []
  · subst hnil
    rw [List.isEmpty_nil, if_pos rfl, if_pos rfl, TableSet.select_nil]
    rcases s.names_cases (.listAll s.schema excluded) fun name => !excluded.contains name with
      ⟨fault, hrefused, heq⟩ | ⟨hanswered, heq⟩
    · exact Or.inl ⟨fault, hrefused, by rw [heq]; rfl⟩
    · exact Or.inr ⟨hanswered, by rw [heq]; rfl⟩
  · have hfalse : ¬ requested.isEmpty = true := by simpa using hnil
    rw [if_neg hfalse, if_neg hfalse, TableSet.select_of_ne_nil hnil]
    rcases s.names_cases (.listRequested s.schema requested) requested.contains with
      ⟨fault, hrefused, heq⟩ | ⟨hanswered, heq⟩
    · exact Or.inl ⟨fault, hrefused, by rw [heq]; rfl⟩
    · exact Or.inr ⟨hanswered, by rw [heq]; rfl⟩

theorem list_eq_error_iff {requested excluded : List String} {f : Failure} :
    s.list requested excluded = .error f ↔
      ∃ fault, s.ask (.listing s.schema requested excluded) () = .error fault ∧
        f = .connection fault := by
  rcases s.list_cases requested excluded with ⟨fault, hrefused, heq⟩ | ⟨hanswered, heq⟩
  · simp [hrefused, heq, eq_comm]
  · simp [hanswered, heq]

theorem fault_of_list {requested excluded : List String} {f : Failure}
    (h : s.list requested excluded = .error f) : ∃ fault, f = .connection fault := by
  obtain ⟨fault, -, hf⟩ := list_eq_error_iff.1 h
  exact ⟨fault, hf⟩

theorem list_of_answered {requested excluded : List String}
    (h : s.ask (.listing s.schema requested excluded) () = .ok ()) :
    s.list requested excluded =
      .ok (.select (s.server.tableNames s.schema fun _ => true) requested excluded) := by
  rcases s.list_cases requested excluded with ⟨_, hrefused, -⟩ | ⟨-, heq⟩
  · exact absurd (h.symm.trans hrefused) (by simp)
  · exact heq

theorem select_of_list {requested excluded : List String} {set : TableSet}
    (h : s.list requested excluded = .ok set) :
    set = .select (s.server.tableNames s.schema fun _ => true) requested excluded := by
  rcases s.list_cases requested excluded with ⟨_, -, heq⟩ | ⟨-, heq⟩
  · exact absurd (heq.symm.trans h) (by simp)
  · exact Except.ok.inj (h.symm.trans heq)

/-- **A session is a catalog of the base tables of its schema**, whose names are different. -/
theorem Backs.lists {catalog : Catalog} (h : s.Backs catalog)
    (hnodup : (s.server.tableNames s.schema fun _ => true).Nodup) :
    catalog.Lists (s.server.tableNames s.schema fun _ => true) where
  ascending := by
    refine ((pairwise_mergeSort_names _).and hnodup).imp fun hle => ?_
    exact String.not_le.1 fun hge => hle.2 (String.le_antisymm hle.1 hge)
  select requested excluded set hset := by
    rw [h.list] at hset
    exact select_of_list hset
  named table t hdescribe := (h.answered table t hdescribe).1

/-! ## Connecting -/

theorem enter_cases (d : DatabaseSettings) (mode : TlsMode) (server : DatabaseServer) :
    (∃ fault, enter d mode server = .error (.connection fault)) ∨
      (server.receive mode = .ok () ∧ server.fails .probe = none ∧
        enter d mode server = .ok ⟨server, d.schema, true⟩) := by
  unfold enter
  cases server.receive mode with
  | error fault => exact Or.inl ⟨fault, rfl⟩
  | ok _ =>
    dsimp only [probe, ask]
    cases server.fails .probe with
    | some fault => exact Or.inl ⟨fault, rfl⟩
    | none => exact Or.inr ⟨rfl, rfl, rfl⟩

/-- **Settings are looked at first.** What fails after that counts as one of the connection, and if
nothing does there is a session with the server that was reached. -/
theorem connect_cases (network : Network) (d : DatabaseSettings) :
    (∃ fault, d.tlsMode = .error fault ∧ connect network d = .error (.settings fault)) ∨
      ∃ mode, d.tlsMode = .ok mode ∧
        ((∃ fault, connect network d = .error (.connection fault)) ∨
          ∃ server, network.reach d.endpoint = .ok server ∧ server.receive mode = .ok () ∧
            server.fails .probe = none ∧
            connect network d = .ok ⟨server, d.schema, true⟩) := by
  unfold connect
  cases d.tlsMode with
  | error fault => exact Or.inl ⟨fault, rfl, rfl⟩
  | ok mode =>
    refine Or.inr ⟨mode, rfl, ?_⟩
    cases network.reach d.endpoint with
    | error fault => exact Or.inl ⟨_, rfl⟩
    | ok server =>
      rcases enter_cases d mode server with hfails | ⟨hreceive, hprobe, heq⟩
      · exact Or.inl hfails
      · exact Or.inr ⟨server, rfl, hreceive, hprobe, heq⟩

theorem schema_of_connect {network : Network} {d : DatabaseSettings}
    (h : connect network d = .ok s) : s.schema = d.schema := by
  rcases connect_cases network d with
    ⟨_, -, hfails⟩ | ⟨_, -, ⟨_, hfails⟩ | ⟨_, -, -, -, heq⟩⟩
  · exact absurd (hfails.symm.trans h) (by simp)
  · exact absurd (hfails.symm.trans h) (by simp)
  · rw [← Except.ok.inj (heq.symm.trans h)]

end Session

end CatalogEntities
