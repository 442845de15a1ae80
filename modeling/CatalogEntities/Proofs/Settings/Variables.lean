import CatalogEntities.Proofs.Decimal.Value
import CatalogEntities.Settings.Environment

/-!
# `Proofs/Settings/Variables.lean` — which variables make settings

What is asked of each variable is said here variable by variable (`WellFormedVariables`), and so is
what is wrong with it if it does not hold; reading finds the first fault in a fixed order
(`FirstOf`, `variableFaults`). That order is spread over the code: the port is read before the three
variables that must be set, and the schema and the protection mode are only looked at when the whole
is checked. By then nothing else can be wrong (`check_eq_error_iff`).

Each step of the reading is first tied to its own fault, and `firstOf_bind_iff` then lets the faults
of a sequence of steps be read off the sequence. No case is made of all six at once.
-/

set_option autoImplicit false

namespace CatalogEntities.Settings

/-! ## What is asked of variables -/

/-- **The port that a text denotes**: digits, perhaps behind a plus sign, of value at most 65535. -/
def IsPort (raw : String) (n : ℕ) : Prop :=
  ∃ digits, (raw.toList = digits ∨ raw.toList = '+' :: digits) ∧ digits ≠ [] ∧
    Decimal.AllDigits digits ∧ Decimal.digitsValue digits = n ∧ n ≤ 65535

/-- A variable that is set to something. One that is set and empty is as good as none where a value
is needed. -/
def IsGiven (lookup : String → Option String) (name : String) : Prop :=
  ∃ value, lookup name = some value ∧ value ≠ ""

/-- **Variables that describe settings.** The clauses are independent of one another, as no order is
wanted where nothing is wrong; the password and all other variables may be anything. -/
structure WellFormedVariables (lookup : String → Option String) : Prop where
  port : ∀ raw, lookup SettingsVariable.port = some raw → ∃ n, IsPort raw n
  host : IsGiven lookup SettingsVariable.host
  database : IsGiven lookup SettingsVariable.database
  user : IsGiven lookup SettingsVariable.user
  schema : lookup SettingsVariable.schema ≠ some ""
  sslMode : ∀ raw, lookup SettingsVariable.sslMode = some raw → (TlsMode.read? raw).isSome

/-- **The settings that variables describe**: each field is its variable, or else its default. -/
structure DescribedBy (lookup : String → Option String) (s : Settings) : Prop where
  port : ∀ raw, lookup SettingsVariable.port = some raw → IsPort raw s.database.port.toNat
  noPort : lookup SettingsVariable.port = none → s.database.port = 5432
  host : lookup SettingsVariable.host = some s.database.host
  database : lookup SettingsVariable.database = some s.database.database
  user : lookup SettingsVariable.user = some s.database.user
  password : s.database.password = (lookup SettingsVariable.password).getD ""
  schema : s.database.schema = (lookup SettingsVariable.schema).getD "public"
  sslMode : s.database.sslMode = (lookup SettingsVariable.sslMode).getD "require"
  generator : s.generator = .defaults

/-! ## What is wrong with them -/

/-- A port that is none. -/
inductive BadPort (lookup : String → Option String) : SettingsFault → Prop
  | intro {raw : String} (hset : lookup SettingsVariable.port = some raw)
      (hbad : ∀ n, ¬ IsPort raw n) : BadPort lookup (.badPort SettingsVariable.port raw)

/-- A variable that is not set, or set to nothing. -/
inductive NotGiven (lookup : String → Option String) (name : String) : SettingsFault → Prop
  | intro (h : ¬ IsGiven lookup name) : NotGiven lookup name (.unset name)

inductive EmptySchema (lookup : String → Option String) : SettingsFault → Prop
  | intro (h : lookup SettingsVariable.schema = some "") :
      EmptySchema lookup (.required "database.schema")

inductive BadMode (lookup : String → Option String) : SettingsFault → Prop
  | intro {raw : String} (hset : lookup SettingsVariable.sslMode = some raw)
      (hbad : TlsMode.read? raw = none) : BadMode lookup (.badTlsMode (Text.lowerText raw))

/-- **What can be wrong with variables**, in the order in which it is looked for. -/
def variableFaults (lookup : String → Option String) : List (SettingsFault → Prop) :=
  [BadPort lookup, NotGiven lookup SettingsVariable.host,
    NotGiven lookup SettingsVariable.database, NotGiven lookup SettingsVariable.user,
    EmptySchema lookup, BadMode lookup]

/-- **The first fault of several**: nothing is wrong that is looked for before it. There may be
others behind it, and which they are is not asked. -/
inductive FirstOf (fault : SettingsFault) : List (SettingsFault → Prop) → Prop
  | here {wrong : SettingsFault → Prop} {rest : List (SettingsFault → Prop)} (h : wrong fault) :
      FirstOf fault (wrong :: rest)
  | later {wrong : SettingsFault → Prop} {rest : List (SettingsFault → Prop)}
      (hnone : ∀ other, ¬ wrong other) (h : FirstOf fault rest) : FirstOf fault (wrong :: rest)

section

variable {fault : SettingsFault} {wrong : SettingsFault → Prop}
  {rest : List (SettingsFault → Prop)}

theorem firstOf_cons_iff : FirstOf fault (wrong :: rest) ↔
    wrong fault ∨ (∀ other, ¬ wrong other) ∧ FirstOf fault rest := by
  constructor
  · intro h
    cases h with
    | here h => exact Or.inl h
    | later hnone h => exact Or.inr ⟨hnone, h⟩
  · rintro (h | ⟨hnone, h⟩)
    · exact .here h
    · exact .later hnone h

variable {faults others : List (SettingsFault → Prop)}

/-- A first fault is a fault. -/
theorem FirstOf.exists_wrong (h : FirstOf fault faults) : ∃ wrong ∈ faults, wrong fault := by
  induction h with
  | here h => exact ⟨_, List.mem_cons_self, h⟩
  | later _ _ ih =>
    obtain ⟨wrong, hmem, h⟩ := ih
    exact ⟨wrong, List.mem_cons_of_mem _ hmem, h⟩

/-- Where something is wrong there is a first fault. -/
theorem exists_firstOf (hmem : wrong ∈ faults) (h : wrong fault) :
    ∃ first, FirstOf first faults := by
  induction faults with
  | nil => exact absurd hmem List.not_mem_nil
  | cons other rest ih =>
    by_cases hother : ∃ first, other first
    · obtain ⟨first, hfirst⟩ := hother
      exact ⟨first, .here hfirst⟩
    · rcases List.mem_cons.1 hmem with rfl | hmem
      · exact absurd ⟨fault, h⟩ hother
      · obtain ⟨first, hfirst⟩ := ih hmem
        exact ⟨first, .later (not_exists.1 hother) hfirst⟩

/-- A first fault of two lists is that of the first, or that of the second if the first has none.
This is how gathering and checking are put together. -/
theorem firstOf_append_iff : FirstOf fault (faults ++ others) ↔
    FirstOf fault faults ∨ (∀ first, ¬ FirstOf first faults) ∧ FirstOf fault others := by
  induction faults with
  | nil =>
    rw [List.nil_append]
    exact ⟨fun h => Or.inr ⟨fun _ => nofun, h⟩, fun h => h.resolve_left nofun |>.2⟩
  | cons wrong rest ih =>
    simp only [List.cons_append, firstOf_cons_iff, ih, not_or, not_and, forall_and]
    constructor
    · rintro (h | ⟨hnone, h | ⟨hrest, h⟩⟩)
      · exact Or.inl (Or.inl h)
      · exact Or.inl (Or.inr ⟨hnone, h⟩)
      · exact Or.inr ⟨⟨hnone, fun first _ => hrest first⟩, h⟩
    · rintro ((h | ⟨hnone, h⟩) | ⟨⟨hnone, hrest⟩, h⟩)
      · exact Or.inl h
      · exact Or.inr ⟨hnone, Or.inl h⟩
      · exact Or.inr ⟨hnone, Or.inr ⟨fun first => hrest first hnone, h⟩⟩

end

/-! ## Ports -/

theorem eq_portDigits (cs : List Char) : cs = portDigits cs ∨ cs = '+' :: portDigits cs := by
  unfold portDigits
  split
  · exact Or.inr rfl
  · exact Or.inl rfl

theorem portDigits_of_allDigits {ds : List Char} (h : Decimal.AllDigits ds) :
    portDigits ds = ds := by
  unfold portDigits
  split
  · rename_i rest
    exact absurd rfl (Decimal.ne_sign_of_isDigit (h '+' List.mem_cons_self)).1
  · rfl

theorem toNat_ofNat_port {n : ℕ} (h : n ≤ 65535) : (UInt16.ofNat n).toNat = n :=
  UInt16.toNat_ofNat_of_lt' (Nat.lt_succ_of_le h)

/-- **A port is read exactly if the text denotes one.** -/
theorem readPort?_eq_some_iff {raw : String} {port : UInt16} :
    readPort? raw = some port ↔ IsPort raw port.toNat := by
  -- what `readPort?` tests is what `IsPort` asks of the digits behind the sign
  simp only [readPort?, Decimal.ofDigits_eq]
  constructor
  · intro h
    split at h
    · exact absurd h (by simp)
    · rename_i hdigits
      simp only [Bool.or_eq_true, Bool.not_eq_true', not_or, List.isEmpty_iff,
        Bool.not_eq_false, List.all_eq_true] at hdigits
      split at h
      · rename_i hbound
        obtain rfl := Option.some.inj h
        rw [IsPort, toNat_ofNat_port hbound]
        exact ⟨portDigits raw.toList, eq_portDigits raw.toList, hdigits.1, hdigits.2, rfl, hbound⟩
      · exact absurd h (by simp)
  · rintro ⟨digits, hraw, hsome, hall, hvalue, hbound⟩
    have hdigits : portDigits raw.toList = digits := by
      rcases hraw with hraw | hraw
      · rw [hraw, portDigits_of_allDigits hall]
      · rw [hraw, portDigits]
    have hgood : ¬ (digits.isEmpty || !digits.all Char.isDigit) = true := by
      simp only [Bool.or_eq_true, Bool.not_eq_true', not_or, List.isEmpty_iff,
        Bool.not_eq_false, List.all_eq_true]
      exact ⟨hsome, hall⟩
    rw [hdigits, if_neg hgood, hvalue, if_pos hbound, UInt16.ofNat_toNat]

theorem readPort?_eq_none_iff {raw : String} :
    readPort? raw = none ↔ ∀ n, ¬ IsPort raw n := by
  constructor
  · rintro hnone n ⟨digits, hraw, hsome, hall, hvalue, hbound⟩
    have hread : readPort? raw = some (UInt16.ofNat n) := by
      rw [readPort?_eq_some_iff, toNat_ofNat_port hbound]
      exact ⟨digits, hraw, hsome, hall, hvalue, hbound⟩
    rw [hnone] at hread
    exact absurd hread (by simp)
  · intro h
    rw [Option.eq_none_iff_forall_ne_some]
    intro port hread
    exact h _ (readPort?_eq_some_iff.1 hread)

/-- A port may have any number of digits. -/
example : readPort? "+00000000000000000005432" = some 5432 := by decide +kernel

example : readPort? "65536" = none ∧ readPort? "+" = none ∧ readPort? "-0" = none := by
  decide +kernel

section

variable {lookup : String → Option String} {fault : SettingsFault}

/-- The port that variables describe. -/
def HasPort (lookup : String → Option String) (port : UInt16) : Prop :=
  (∀ raw, lookup SettingsVariable.port = some raw → IsPort raw port.toNat) ∧
    (lookup SettingsVariable.port = none → port = 5432)

theorem portOf_eq_ok_iff {port : UInt16} :
    portOf SettingsVariable.port (lookup SettingsVariable.port) = .ok port ↔
      HasPort lookup port := by
  unfold HasPort
  cases hset : lookup SettingsVariable.port with
  | none => simp [portOf, DatabaseSettings.defaultPort, eq_comm]
  | some raw =>
    simp only [portOf, Option.some.injEq, forall_eq', reduceCtorEq, false_implies, and_true,
      ← readPort?_eq_some_iff]
    cases readPort? raw <;> simp

/-- Reading the port fails exactly with the fault of a bad one. -/
theorem portOf_eq_error_iff :
    portOf SettingsVariable.port (lookup SettingsVariable.port) = .error fault ↔
      BadPort lookup fault := by
  cases hset : lookup SettingsVariable.port with
  | none =>
    refine ⟨fun h => by simp [portOf] at h, fun h => ?_⟩
    cases h with
    | intro hset' _ => exact absurd (hset.symm.trans hset') (by simp)
  | some raw =>
    rw [portOf]
    constructor
    · intro h
      split at h
      · exact absurd h (by simp)
      · rename_i hbad
        obtain rfl := Except.error.inj h
        exact .intro hset (readPort?_eq_none_iff.1 hbad)
    · intro h
      cases h with
      | intro hset' hbad =>
        obtain rfl := Option.some.inj (hset.symm.trans hset')
        rw [readPort?_eq_none_iff.2 hbad]

/-! ## Variables that must be set -/

variable {name : String}

theorem needed_of_given {value : String} (hset : lookup name = some value) (hsome : value ≠ "") :
    needed name (lookup name) = .ok value := by
  rw [hset, needed, if_neg hsome]

theorem needed_of_not_given (h : ¬ IsGiven lookup name) :
    needed name (lookup name) = .error (.unset name) := by
  cases hset : lookup name with
  | none => rfl
  | some value =>
    rw [needed, if_pos]
    by_contra hsome
    exact h ⟨value, hset, hsome⟩

theorem needed_eq_ok_iff {value : String} :
    needed name (lookup name) = .ok value ↔ lookup name = some value ∧ value ≠ "" := by
  refine ⟨fun h => ?_, fun h => needed_of_given h.1 h.2⟩
  by_cases hgiven : IsGiven lookup name
  · obtain ⟨other, hset, hsome⟩ := hgiven
    rw [needed_of_given hset hsome] at h
    obtain rfl := Except.ok.inj h
    exact ⟨hset, hsome⟩
  · rw [needed_of_not_given hgiven] at h
    exact absurd h (by simp)

/-- Asking for a variable fails exactly if it is not given. -/
theorem needed_eq_error_iff :
    needed name (lookup name) = .error fault ↔ NotGiven lookup name fault := by
  constructor
  · intro h
    by_cases hgiven : IsGiven lookup name
    · obtain ⟨value, hset, hsome⟩ := hgiven
      rw [needed_of_given hset hsome] at h
      exact absurd h (by simp)
    · rw [needed_of_not_given hgiven] at h
      obtain rfl := Except.error.inj h
      exact .intro hgiven
  · rintro ⟨hgiven⟩
    exact needed_of_not_given hgiven

end

/-! ## One after the other -/

/-- **A step with its faults, and what is looked for after it.** The steps behind the first only
have to be right where it succeeds, and may use what it has found. -/
theorem firstOf_bind_iff {α β : Type} {x : Except SettingsFault α}
    {f : α → Except SettingsFault β} {fault : SettingsFault} {wrong : SettingsFault → Prop}
    {rest : List (SettingsFault → Prop)} (hx : ∀ fault, x = .error fault ↔ wrong fault)
    (hf : ∀ a, x = .ok a → (f a = .error fault ↔ FirstOf fault rest)) :
    (x >>= f) = .error fault ↔ FirstOf fault (wrong :: rest) := by
  rw [firstOf_cons_iff, ← hx]
  cases x with
  | ok a =>
    have hnone : ∀ other, ¬ wrong other := fun other h => absurd ((hx other).2 h) (by simp)
    rw [← hf a rfl]
    exact ⟨fun h => Or.inr ⟨hnone, h⟩, fun h => (h.resolve_left (by simp)).2⟩
  | error other =>
    have hwrong : wrong other := (hx other).1 rfl
    show Except.error other = Except.error fault ↔ _
    rw [Except.error.injEq, Except.error.injEq]
    exact ⟨Or.inl, fun h => h.resolve_right fun hnone => hnone.1 other hwrong⟩

section

variable {lookup : String → Option String} {fault : SettingsFault} {s : Settings}

/-! ## Gathering, then checking -/

/-- What is gathered is what variables describe, with the three that must be set. -/
theorem gather_eq_ok_iff : gather lookup = .ok s ↔
    DescribedBy lookup s ∧ s.database.host ≠ "" ∧ s.database.database ≠ "" ∧
      s.database.user ≠ "" := by
  simp only [gather, bind_eq_ok_iff, portOf_eq_ok_iff, needed_eq_ok_iff, pure, Except.pure,
    Except.ok.injEq]
  constructor
  · rintro ⟨port, ⟨hport, hnone⟩, host, ⟨hhost, hhost'⟩, database, ⟨hdatabase, hdatabase'⟩, user,
      ⟨huser, huser'⟩, rfl⟩
    exact ⟨⟨hport, hnone, hhost, hdatabase, huser, rfl, rfl, rfl, rfl⟩, hhost', hdatabase', huser'⟩
  · rintro ⟨h, hhost, hdatabase, huser⟩
    refine ⟨s.database.port, ⟨h.port, h.noPort⟩, s.database.host, ⟨h.host, hhost⟩,
      s.database.database, ⟨h.database, hdatabase⟩, s.database.user, ⟨h.user, huser⟩, ?_⟩
    -- the fields that are not read are described by equations, and so determined
    obtain ⟨database, generator⟩ := s
    obtain ⟨host, port, name, user, password, schema, sslMode⟩ := database
    obtain rfl := h.password
    obtain rfl := h.schema
    obtain rfl := h.sslMode
    obtain rfl := h.generator
    rfl

/-- Gathering finds the first of its four faults. -/
theorem gather_eq_error_iff : gather lookup = .error fault ↔
    FirstOf fault [BadPort lookup, NotGiven lookup SettingsVariable.host,
      NotGiven lookup SettingsVariable.database, NotGiven lookup SettingsVariable.user] :=
  firstOf_bind_iff (fun _ => portOf_eq_error_iff) fun _ _ =>
    firstOf_bind_iff (fun _ => needed_eq_error_iff) fun _ _ =>
      firstOf_bind_iff (fun _ => needed_eq_error_iff) fun _ _ =>
        firstOf_bind_iff (fun _ => needed_eq_error_iff) fun _ _ => ⟨nofun, nofun⟩

/-- A schema that was described is empty only if its variable is. -/
theorem nonempty_schema_eq_error_iff (h : DescribedBy lookup s) :
    nonempty s.database.schema (.required "database.schema") = .error fault ↔
      EmptySchema lookup fault := by
  rw [h.schema]
  constructor
  · intro herror
    cases hset : lookup SettingsVariable.schema with
    | none =>
      rw [hset] at herror
      exact absurd herror (by simp [nonempty])
    | some schema =>
      rw [hset, Option.getD_some, nonempty] at herror
      split at herror
      · rename_i hempty
        obtain rfl := Except.error.inj herror
        exact .intro (hempty ▸ hset)
      · exact absurd herror (by simp)
  · rintro ⟨hset⟩
    rw [hset]
    rfl

theorem read?_require : TlsMode.read? "require" = some .require := by decide +kernel

/-- A mode that was described is none only if its variable is none. -/
theorem tlsMode_eq_error_iff (h : DescribedBy lookup s) :
    s.database.tlsMode = .error fault ↔ BadMode lookup fault := by
  rw [DatabaseSettings.tlsMode, h.sslMode]
  constructor
  · intro herror
    cases hset : lookup SettingsVariable.sslMode with
    | none =>
      rw [hset] at herror
      exact absurd herror (by rw [Option.getD_none, read?_require]; simp)
    | some raw =>
      rw [hset, Option.getD_some] at herror
      split at herror
      · exact absurd herror (by simp)
      · rename_i hbad
        obtain rfl := Except.error.inj herror
        exact .intro hset hbad
  · rintro ⟨hset, hbad⟩
    rw [hset, Option.getD_some, hbad]

/-- **What is gathered can be wrong in two ways only.** -/
theorem check_eq_error_iff (h : gather lookup = .ok s) :
    s.check = .error fault ↔ FirstOf fault [EmptySchema lookup, BadMode lookup] := by
  obtain ⟨hdescribed, hhost, hdatabase, huser⟩ := gather_eq_ok_iff.1 h
  rw [check, (nonempty_eq_ok_iff (u := ())).2 hhost, (nonempty_eq_ok_iff (u := ())).2 hdatabase,
    (nonempty_eq_ok_iff (u := ())).2 huser]
  show (nonempty s.database.schema _ >>= _) = _ ↔ _
  refine firstOf_bind_iff (fun _ => nonempty_schema_eq_error_iff hdescribed) fun _ _ =>
    firstOf_bind_iff (fun _ => tlsMode_eq_error_iff hdescribed) fun _ _ => ?_
  rw [hdescribed.generator]
  constructor
  · intro hok
    cases hok
  · intro hnothing
    cases hnothing

/-- Four faults are found in gathering, and two in checking. -/
theorem variableFaults_eq (lookup : String → Option String) :
    variableFaults lookup =
      [BadPort lookup, NotGiven lookup SettingsVariable.host,
        NotGiven lookup SettingsVariable.database, NotGiven lookup SettingsVariable.user] ++
      [EmptySchema lookup, BadMode lookup] := rfl

/-- **Reading fails exactly with the first fault of the variables.** -/
theorem ofVariables_eq_error_iff {failure : Failure} : ofVariables lookup = .error failure ↔
    ∃ fault, failure = .settings fault ∧ FirstOf fault (variableFaults lookup) := by
  have hfirst : ∀ fault, FirstOf fault (variableFaults lookup) ↔ gather lookup = .error fault ∨
      (∀ first, gather lookup ≠ .error first) ∧
        FirstOf fault [EmptySchema lookup, BadMode lookup] := by
    intro fault
    simp only [ne_eq, gather_eq_error_iff]
    rw [variableFaults_eq, firstOf_append_iff]
  simp only [hfirst, ofVariables]
  cases hgather : gather lookup with
  | error other => simp [eq_comm]
  | ok s =>
    simp only [reduceCtorEq, ne_eq, not_false_eq_true, implies_true, true_and, false_or,
      ← check_eq_error_iff hgather, checked]
    cases hcheck : s.check with
    | ok u => simp
    | error other => simp [eq_comm]

/-- Variables are well-formed if there is nothing wrong with them. -/
theorem wellFormedVariables_iff : WellFormedVariables lookup ↔
    ∀ wrong ∈ variableFaults lookup, ∀ fault, ¬ wrong fault := by
  -- clause by clause: each fault is the negation of one clause
  simp only [variableFaults, List.mem_cons, List.not_mem_nil, or_false, forall_eq_or_imp,
    forall_eq]
  constructor
  · intro h
    refine ⟨?_, ?_, ?_, ?_, ?_, ?_⟩
    · rintro _ ⟨hset, hbad⟩
      obtain ⟨n, hn⟩ := h.port _ hset
      exact hbad n hn
    · rintro _ ⟨hnot⟩
      exact hnot h.host
    · rintro _ ⟨hnot⟩
      exact hnot h.database
    · rintro _ ⟨hnot⟩
      exact hnot h.user
    · rintro _ ⟨hset⟩
      exact h.schema hset
    · rintro _ ⟨hset, hbad⟩
      have hmode := h.sslMode _ hset
      rw [hbad] at hmode
      exact absurd hmode (by simp)
  · rintro ⟨hport, hhost, hdatabase, huser, hschema, hmode⟩
    refine ⟨fun raw hset => ?_, ?_, ?_, ?_, fun hset => hschema _ ⟨hset⟩, fun raw hset => ?_⟩
    · by_contra hbad
      exact hport _ (.intro hset (not_exists.1 hbad))
    · by_contra hnot
      exact hhost _ ⟨hnot⟩
    · by_contra hnot
      exact hdatabase _ ⟨hnot⟩
    · by_contra hnot
      exact huser _ ⟨hnot⟩
    · by_contra hbad
      exact hmode _ (.intro hset (Option.not_isSome_iff_eq_none.1 hbad))

/-- Well-formed variables make settings. -/
theorem exists_ofVariables (h : WellFormedVariables lookup) :
    ∃ s, ofVariables lookup = .ok s := by
  cases hread : ofVariables lookup with
  | ok s => exact ⟨s, rfl⟩
  | error failure =>
    obtain ⟨fault, -, hfirst⟩ := ofVariables_eq_error_iff.1 hread
    obtain ⟨wrong, hmem, hwrong⟩ := hfirst.exists_wrong
    exact absurd hwrong (wellFormedVariables_iff.1 h wrong hmem fault)

theorem describedBy_of_ofVariables (h : ofVariables lookup = .ok s) : DescribedBy lookup s := by
  rw [ofVariables] at h
  split at h
  · rename_i t hgather
    obtain ⟨rfl, -⟩ := checked_eq_ok_iff.1 h
    exact (gather_eq_ok_iff.1 hgather).1
  · exact absurd h (by simp)

theorem wellFormedVariables_of_ofVariables (h : ofVariables lookup = .ok s) :
    WellFormedVariables lookup := by
  rw [wellFormedVariables_iff]
  intro wrong hmem fault hwrong
  obtain ⟨first, hfirst⟩ := exists_firstOf hmem hwrong
  have herror := ofVariables_eq_error_iff.2 ⟨first, rfl, hfirst⟩
  exact absurd (h.symm.trans herror) (by simp)

theorem IsPort.unique {raw : String} {port other : UInt16} (h : IsPort raw port.toNat)
    (h' : IsPort raw other.toNat) : port = other :=
  Option.some.inj ((readPort?_eq_some_iff.2 h).symm.trans (readPort?_eq_some_iff.2 h'))

/-- Variables describe one group of settings at most. -/
theorem DescribedBy.unique {t : Settings} (hs : DescribedBy lookup s) (ht : DescribedBy lookup t) :
    s = t := by
  obtain ⟨⟨host, port, database, user, password, schema, sslMode⟩, generator⟩ := s
  obtain ⟨⟨host', port', database', user', password', schema', sslMode'⟩, generator'⟩ := t
  have hport : port = port' := by
    cases hset : lookup SettingsVariable.port with
    | none => exact (hs.noPort hset).trans (ht.noPort hset).symm
    | some raw => exact (hs.port raw hset).unique (ht.port raw hset)
  obtain rfl := hport
  obtain rfl := Option.some.inj (hs.host.symm.trans ht.host)
  obtain rfl := Option.some.inj (hs.database.symm.trans ht.database)
  obtain rfl := Option.some.inj (hs.user.symm.trans ht.user)
  obtain rfl := hs.password.trans ht.password.symm
  obtain rfl := hs.schema.trans ht.schema.symm
  obtain rfl := hs.sslMode.trans ht.sslMode.symm
  obtain rfl := hs.generator.trans ht.generator.symm
  rfl

end

/-- **What variables make**: settings, or the first of their faults. -/
structure ReadsVariables (lookup : String → Option String) : Prop where
  /-- Settings come out exactly if the variables are well-formed, -/
  succeeds : (∃ s, ofVariables lookup = .ok s) ↔ WellFormedVariables lookup
  /-- and they are those that the variables describe. -/
  settings : WellFormedVariables lookup → ∀ s, ofVariables lookup = .ok s ↔ DescribedBy lookup s
  /-- A failure is the first fault, and the first fault is the failure. -/
  failure : ∀ failure, ofVariables lookup = .error failure ↔
    ∃ fault, failure = .settings fault ∧ FirstOf fault (variableFaults lookup)

/-- **Variables make settings exactly if they are well-formed**, and otherwise the first fault is
reported. -/
theorem readsVariables (lookup : String → Option String) : ReadsVariables lookup where
  succeeds := by
    refine ⟨?_, exists_ofVariables⟩
    rintro ⟨s, hs⟩
    exact wellFormedVariables_of_ofVariables hs
  settings h s := by
    refine ⟨describedBy_of_ofVariables, fun hs => ?_⟩
    obtain ⟨t, ht⟩ := exists_ofVariables h
    rwa [hs.unique (describedBy_of_ofVariables ht)]
  failure _ := ofVariables_eq_error_iff

end CatalogEntities.Settings
