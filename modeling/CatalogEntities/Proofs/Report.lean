import CatalogEntities.Proofs.Instant.Reader
import CatalogEntities.Proofs.Json.Pretty
import CatalogEntities.Proofs.Json.Records
import CatalogEntities.Report.Json

/-!
# `Proofs/Report.lean` — what a report tells

The text of a report tells all that the report says: which run it was, when it began and ended to
the nanosecond, what was written and what was not. Whoever reads it finds an object with its members
in the order of declaration and gets the report back from them, whatever characters are in names and
paths (`Report.readBack`).

The duration is a double, and printed for people: it is read as some number, but it is not needed to
tell two reports apart.

How a text is printed and how it is read are modules of their own (`Proofs/Json/Pretty.lean`,
`Proofs/Instant/Reader.lean`). What is added here is the shape of a report: that its members are
these, in this order, and that each of them denotes one value (`Report.IsToldBy`). A member that is
added to the report changes that predicate and the one proof that finds the members.
-/

set_option autoImplicit false

namespace CatalogEntities

open CatalogEntities.Json

/-! ## Files -/

namespace GeneratedFile

/-- A file that was written is decoded as it was. -/
theorem ofJson_toJson {f : GeneratedFile} (h : f.bytes < 2 ^ 64) : ofJson f.toJson = .ok f := by
  obtain ⟨table, path, bytes⟩ := f
  dsimp only at h
  -- no name is there twice, so each member is found under its own
  have hnames : ([("table", Json.string table), ("path", .string path),
      ("bytes", .integer bytes)].map Prod.fst).Nodup := by
    show ["table", "path", "bytes"].Nodup
    decide
  have hfind := find?_members hnames
  rw [toJson, ofJson]
  dsimp only
  generalize members _ = m at hfind ⊢
  have hbytes : field m "bytes" decodeSize = .ok (some bytes) := by
    refine field_eq_some_iff.2 ⟨_, hfind "bytes", ?_⟩
    rw [decodeSize, map_eq_ok_iff]
    exact ⟨bytes, decodeInteger_eq_ok_iff.2 ⟨rfl, by omega, by omega⟩, Int.toNat_natCast _⟩
  have hpath : field m "path" decodePath = .ok (some path) :=
    field_eq_some_iff.2 ⟨_, hfind "path", rfl⟩
  have htable : field m "table" decodeString = .ok (some table) :=
    field_eq_some_iff.2 ⟨_, hfind "table", rfl⟩
  rw [hbytes, hpath, htable]
  rfl

/-- And its data is read back, as its length fits a machine word. -/
theorem readsBack_toJson {f : GeneratedFile} (h : f.bytes < 2 ^ 64) :
    ReadsBack f.toJson f.toJson := by
  have hword : fitsWord f.bytes = true := by
    have hpower : Nat.pow 2 64 = 2 ^ 64 := rfl
    rw [fitsWord, Bool.and_eq_true, decide_eq_true_eq, decide_eq_true_eq, hpower]
    omega
  exact readsBack_object
    (.cons ⟨rfl, readsBack_string _⟩ (.cons ⟨rfl, readsBack_string _⟩
      (.cons ⟨rfl, readsBack_integer hword⟩ .nil)))

end GeneratedFile

namespace Json

/-- A list is decoded if its items are. -/
theorem decodeList_map {α : Type} {decode : Decoder α} {encode : α → Json} {xs : List α}
    (h : ∀ x ∈ xs, decode (encode x) = .ok x) :
    decodeList decode (array (xs.map encode)) = .ok xs := by
  rw [decodeList]
  induction xs with
  | nil => rfl
  | cons x xs ih =>
    have hx := h x List.mem_cons_self
    have hxs := ih fun y hy => h y (List.mem_cons_of_mem x hy)
    rw [List.map_cons, List.mapM_cons, hx, hxs]
    rfl

theorem readsBack_map {α : Type} {encode : α → Json} {xs : List α}
    (h : ∀ x ∈ xs, ReadsBack (encode x) (encode x)) :
    ReadsBack (array (xs.map encode)) (array (xs.map encode)) := by
  apply readsBack_array
  rw [List.forall₂_same]
  intro v hv
  obtain ⟨x, hx, rfl⟩ := List.mem_map.1 hv
  exact h x hx

end Json

/-! ## Reports -/

namespace Report

/-- **A report that there is**: of instants that there are, sizes of one machine word and a duration
that is a double, if it is finite at all. -/
structure Admitted (r : Report) (seconds : Option Double) : Prop where
  /-- Both instants can be shown in a calendar, -/
  startedAt : r.stamp.startedAt.Admitted
  completedAt : r.stamp.completedAt.Admitted
  /-- a file is no longer than its length can say, -/
  bytes : ∀ f ∈ r.outcome.files, f.bytes < 2 ^ 64
  /-- and a duration that is not finite is written as null. -/
  seconds : ∀ d ∈ seconds, d.Finite

/-- **Data that tells a report**: an object of its members, in the order of declaration, which
denote and decode to what the report says. -/
def IsToldBy (r : Report) (value : Json) : Prop :=
  ∃ (started completed : String) (duration files missing colliding : Json),
    value = .object
      [ ("run_id", .string r.stamp.runId), ("started_at", .string started),
        ("completed_at", .string completed), ("duration_seconds", duration),
        ("dry_run", .bool r.outcome.dryRun), ("files", files), ("missing_tables", missing),
        ("colliding_tables", colliding) ] ∧
    Instant.read? started = some r.stamp.startedAt ∧
    Instant.read? completed = some r.stamp.completedAt ∧
    decodeList GeneratedFile.ofJson files = .ok r.outcome.files ∧
    decodeList decodeString missing = .ok r.outcome.missing ∧
    decodeList decodeString colliding = .ok r.outcome.colliding

/-- Reports that say the same, but for the duration, which reading back may round. -/
def SaysSame (r other : Report) : Prop :=
  r.stamp.runId = other.stamp.runId ∧ r.stamp.startedAt = other.stamp.startedAt ∧
    r.stamp.completedAt = other.stamp.completedAt ∧ r.outcome = other.outcome

/-- Data does not tell two reports: what each member denotes is one value. -/
theorem IsToldBy.saysSame {r other : Report} {value : Json} (h : r.IsToldBy value)
    (hother : other.IsToldBy value) : r.SaysSame other := by
  obtain ⟨started, completed, _, files, missing, colliding, rfl, hstarted, hcompleted, hfiles,
    hmissing, hcolliding⟩ := h
  obtain ⟨_, _, _, _, _, _, hvalue, hstarted', hcompleted', hfiles', hmissing', hcolliding'⟩ :=
    hother
  simp only [object.injEq, List.cons.injEq, Prod.mk.injEq, string.injEq, bool.injEq, true_and,
    and_true] at hvalue
  obtain ⟨hrunId, rfl, rfl, -, hdryRun, rfl, rfl, rfl⟩ := hvalue
  -- the members are equal texts and equal data, and each has one meaning
  have houtcome : ∀ {o o' : Outcome}, o.dryRun = o'.dryRun → o.files = o'.files →
      o.missing = o'.missing → o.colliding = o'.colliding → o = o' := by
    rintro ⟨_, _, _, _⟩ ⟨_, _, _, _⟩ rfl rfl rfl rfl
    rfl
  exact ⟨hrunId, Option.some.inj (hstarted.symm.trans hstarted'),
    Option.some.inj (hcompleted.symm.trans hcompleted'),
    houtcome hdryRun (Except.ok.inj (hfiles.symm.trans hfiles'))
      (Except.ok.inj (hmissing.symm.trans hmissing'))
      (Except.ok.inj (hcolliding.symm.trans hcolliding'))⟩

/-- **The text of a report is read as data that tells it.** Data is read back member by member, and
the duration as some double. -/
theorem exists_isToldBy {r : Report} {seconds : Option Double} (h : r.Admitted seconds) :
    ∃ value, read? (r.textLasting seconds) = some value ∧ r.IsToldBy value := by
  obtain ⟨duration, hduration⟩ : ∃ w, ReadsBack (.orNull .float seconds) w := by
    cases seconds with
    | none => exact ⟨_, readsBack_null⟩
    | some d =>
      obtain ⟨e, he⟩ := exists_readsBack_float (h.seconds d rfl)
      exact ⟨_, he⟩
  have hfiles := readsBack_map fun f hf => GeneratedFile.readsBack_toJson (h.bytes f hf)
  have hstrings : ∀ xs : List String, ReadsBack (.strings xs) (.strings xs) :=
    fun xs => readsBack_map fun s _ => readsBack_string s
  -- member by member, in the order of declaration
  have hobject : ReadsBack (r.toJsonLasting seconds) (.object
      ([ ("run_id", .string r.stamp.runId), ("started_at", .string r.stamp.startedAt.text),
         ("completed_at", .string r.stamp.completedAt.text), ("duration_seconds", duration) ] ++
        r.outcome.toMembers)) := readsBack_object
    (.cons ⟨rfl, readsBack_string _⟩ (.cons ⟨rfl, readsBack_string _⟩
      (.cons ⟨rfl, readsBack_string _⟩ (.cons ⟨rfl, hduration⟩ (.cons ⟨rfl, readsBack_bool _⟩
        (.cons ⟨rfl, hfiles⟩ (.cons ⟨rfl, hstrings _⟩ (.cons ⟨rfl, hstrings _⟩ .nil))))))))
  refine ⟨_, hobject.read?_pretty, _, _, _, _, _, _, rfl, Instant.read?_text h.startedAt,
    Instant.read?_text h.completedAt, ?_, ?_, ?_⟩
  · exact decodeList_map fun f hf => GeneratedFile.ofJson_toJson (h.bytes f hf)
  · exact decodeList_map fun _ _ => rfl
  · exact decodeList_map fun _ _ => rfl

/-- **A report is read back from its text**, and two reports with one text say the same. -/
theorem readBack {r : Report} {seconds : Option Double} (h : r.Admitted seconds) :
    (∃ value, read? (r.textLasting seconds) = some value ∧ r.IsToldBy value) ∧
      ∀ (other : Report) (otherSeconds : Option Double), other.Admitted otherSeconds →
        r.textLasting seconds = other.textLasting otherSeconds → r.SaysSame other := by
  refine ⟨exists_isToldBy h, ?_⟩
  intro other otherSeconds hother htext
  obtain ⟨value, hvalue, htold⟩ := exists_isToldBy h
  obtain ⟨otherValue, hotherValue, hotherTold⟩ := exists_isToldBy hother
  rw [htext, hotherValue] at hvalue
  obtain rfl := Option.some.inj hvalue
  exact htold.saysSame hotherTold

/-- A run that ended in a leap second before 1970, with names that have to be escaped. -/
def inLeapSecond : Report where
  stamp := ⟨"run \"7\"", ⟨-1000, 250⟩, ⟨-1, 1500000000⟩, 999500⟩
  outcome := ⟨false, [⟨"a\\b\n", "out/\x01.ts", 42⟩], [], ["é"]⟩

/-- The same, but that it ended in the second after. -/
def afterLeapSecond : Report where
  stamp := { inLeapSecond.stamp with completedAt := ⟨0, 500000000⟩ }
  outcome := inLeapSecond.outcome

/-- A report tells a leap second from the second after it. -/
theorem readBack_inLeapSecond :
    (∃ value, read? inLeapSecond.text = some value ∧ inLeapSecond.IsToldBy value) ∧
      inLeapSecond.text ≠ afterLeapSecond.text := by
  have hseconds : ∀ d ∈ some inLeapSecond.stamp.seconds, d.Finite := by
    rintro d hd
    obtain rfl := Option.some.inj hd
    exact ⟨⟨by decide +kernel, by decide +kernel⟩, by decide +kernel⟩
  have hbytes : ∀ f ∈ inLeapSecond.outcome.files, f.bytes < 2 ^ 64 := by decide
  have hin : inLeapSecond.Admitted (some inLeapSecond.stamp.seconds) :=
    ⟨by decide, by decide, hbytes, hseconds⟩
  have hafter : afterLeapSecond.Admitted (some afterLeapSecond.stamp.seconds) :=
    ⟨by decide, by decide, hbytes, hseconds⟩
  obtain ⟨htold, hsame⟩ := readBack hin
  refine ⟨htold, fun htext => ?_⟩
  obtain ⟨-, -, hcompleted, -⟩ := hsame _ _ hafter htext
  exact absurd hcompleted (by decide)

end Report

end CatalogEntities
