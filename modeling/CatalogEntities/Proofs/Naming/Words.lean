import CatalogEntities.Proofs.Run.FirstOwner
import CatalogEntities.Proofs.Text.Casing
import CatalogEntities.Proofs.Text.Pieces

/-!
# `Proofs/Naming/Words.lean` — what a class name tells of the words

A class name is made of the words of a table's name without anything in between. If every word
begins with a letter, they can be told apart all the same: an upper case letter begins a word, and
no word has another one (`eq_of_flatten_eq`). So two tables have one class exactly if they have the
same words up to the case of letters (`SameWords`), however many underscores stand between these.

Where a word begins with anything else this fails: `a_1` and `a1` have one class.

Class names are the names of files, so this says which tables of a run collide: those of the same
words. The first of them keeps the file and the others are reported (`Proofs/Run/FirstOwner.lean`).
-/

set_option autoImplicit false

namespace CatalogEntities.Naming

open Text

/-- The words of a name: what stands between its underscores, if anything does. -/
def words (table : String) : List (List Char) :=
  (table.toList.splitOn '_').filter fun word => !word.isEmpty

/-- **A name in words**: ASCII characters, with a letter at the beginning of every word. -/
structure IsWordy (table : String) : Prop where
  /-- Beyond ASCII the case of a letter may not be told from its upper case. -/
  ascii : ∀ c ∈ table.toList, c.toNat < 0x80
  /-- A digit in front would not show where the word begins. -/
  letter : ∀ word ∈ words table, ∀ c ∈ word.head?, c.isAlpha = true

theorem isWordy_iff (table : String) :
    ((table.toList.all fun c => c.toNat < 0x80) ∧
      (words table).all fun word => word.head?.all Char.isAlpha) ↔ IsWordy table := by
  rw [List.all_eq_true, List.all_eq_true]
  constructor
  · rintro ⟨hascii, hletter⟩
    exact ⟨fun c hc => of_decide_eq_true (hascii c hc),
      fun word hword => (Option.all_eq_true _ _).1 (hletter word hword)⟩
  · rintro ⟨hascii, hletter⟩
    exact ⟨fun c hc => decide_eq_true (hascii c hc),
      fun word hword => (Option.all_eq_true _ _).2 (hletter word hword)⟩

instance (table : String) : Decidable (IsWordy table) :=
  decidable_of_decidable_of_iff (isWordy_iff table)

/-- **The same words in the same order**, up to the case of ASCII letters. -/
def SameWords (a b : String) : Prop :=
  (words a).map (·.map Char.toLower) = (words b).map (·.map Char.toLower)

instance (a b : String) : Decidable (SameWords a b) := inferInstanceAs (Decidable (_ = _))

/-! ## Words of ASCII characters -/

section

variable {word : List Char}

theorem capitalise_cons_ascii {c : Char} {rest : List Char}
    (h : ∀ d ∈ c :: rest, d.toNat < 0x80) :
    capitalise (c :: rest) = c.toUpper :: rest.map Char.toLower := by
  rw [capitalise, upper_of_ascii (h c List.mem_cons_self),
    flatMap_lower_ascii fun d hd => h d (List.mem_cons_of_mem c hd)]
  rfl

/-- Capitalising forgets the case of a word, -/
theorem capitalise_map_toLower (h : ∀ c ∈ word, c.toNat < 0x80) :
    capitalise (word.map Char.toLower) = capitalise word := by
  cases word with
  | nil => rfl
  | cons c rest =>
    have hlower : ∀ d ∈ (c :: rest).map Char.toLower, d.toNat < 0x80 := by
      intro d hd
      obtain ⟨e, he, rfl⟩ := List.mem_map.1 hd
      exact toNat_toLower_lt (h e he)
    rw [List.map_cons] at hlower ⊢
    rw [capitalise_cons_ascii hlower, capitalise_cons_ascii h,
      toUpper_toLower (h c List.mem_cons_self), List.map_map]
    congr 1
    exact List.map_congr_left fun d hd => toLower_toLower (h d (List.mem_cons_of_mem c hd))

/-- and nothing else. -/
theorem map_toLower_capitalise (h : ∀ c ∈ word, c.toNat < 0x80) :
    (capitalise word).map Char.toLower = word.map Char.toLower := by
  cases word with
  | nil => rfl
  | cons c rest =>
    rw [capitalise_cons_ascii h, List.map_cons, List.map_cons,
      toLower_toUpper (h c List.mem_cons_self), List.map_map]
    congr 1
    exact List.map_congr_left fun d hd => toLower_toLower (h d (List.mem_cons_of_mem c hd))

end

/-! ## Telling words apart -/

/-- A capitalised word: one upper case letter, at its beginning. -/
def IsTitled (word : List Char) : Prop :=
  ∃ c rest, word = c :: rest ∧ c.isUpper = true ∧ ∀ d ∈ rest, d.isUpper = false

/-- What words put together begin with is an upper case letter. -/
theorem isUpper_of_mem_head?_flatten {ws : List (List Char)} (h : ∀ word ∈ ws, IsTitled word) :
    ∀ c ∈ ws.flatten.head?, c.isUpper = true := by
  cases ws with
  | nil => exact fun c hc => absurd hc (by simp)
  | cons word ws =>
    obtain ⟨c, rest, rfl, hupper, -⟩ := h word List.mem_cons_self
    intro d hd
    rw [List.flatten_cons, List.cons_append, List.head?_cons, Option.mem_some_iff] at hd
    rwa [← hd]

/-- The rest of a word ends where the next one begins. -/
theorem takeWhile_rest_append {rest tail : List Char} (hrest : ∀ d ∈ rest, d.isUpper = false)
    (htail : ∀ c ∈ tail.head?, c.isUpper = true) :
    (rest ++ tail).takeWhile (fun d => !d.isUpper) = rest := by
  rw [List.takeWhile_append_of_pos fun d hd => by rw [hrest d hd]; rfl]
  cases tail with
  | nil => exact List.append_nil rest
  | cons c tail =>
    have hc := htail c (by simp)
    rw [List.takeWhile_cons_of_neg (by simp [hc]), List.append_nil]

/-- **Capitalised words can be told apart**, although nothing stands between them. -/
theorem eq_of_flatten_eq {ws vs : List (List Char)} (hws : ∀ word ∈ ws, IsTitled word)
    (hvs : ∀ word ∈ vs, IsTitled word) (h : ws.flatten = vs.flatten) : ws = vs := by
  induction ws generalizing vs with
  | nil =>
    cases vs with
    | nil => rfl
    | cons v vs =>
      obtain ⟨d, s, rfl, -, -⟩ := hvs v List.mem_cons_self
      exact absurd h (by simp)
  | cons w ws ih =>
    obtain ⟨c, r, rfl, -, hr⟩ := hws w List.mem_cons_self
    cases vs with
    | nil => exact absurd h (by simp)
    | cons v vs =>
      obtain ⟨d, s, rfl, -, hs⟩ := hvs v List.mem_cons_self
      have hws' := fun word hword => hws word (List.mem_cons_of_mem _ hword)
      have hvs' := fun word hword => hvs word (List.mem_cons_of_mem _ hword)
      rw [List.flatten_cons, List.flatten_cons, List.cons_append, List.cons_append] at h
      obtain ⟨rfl, htail⟩ := List.cons.inj h
      -- both words end at the next upper case letter
      have hrest : r = s := by
        rw [← takeWhile_rest_append hr (isUpper_of_mem_head?_flatten hws'), htail,
          takeWhile_rest_append hs (isUpper_of_mem_head?_flatten hvs')]
      subst hrest
      rw [ih hws' hvs' (List.append_cancel_left htail)]

/-! ## Classes and words -/

/-- Empty words vanish. -/
theorem classChars_eq (table : String) :
    classChars table.toList = ((words table).map capitalise).flatten := by
  rw [classChars, words, ← List.flatMap_def]
  induction table.toList.splitOn '_' with
  | nil => rfl
  | cons word rest ih =>
    cases word with
    | nil => exact ih
    | cons c chars => rw [List.filter_cons_of_pos rfl, List.flatMap_cons, List.flatMap_cons, ih]

theorem mem_of_mem_words {table : String} {word : List Char} {c : Char}
    (hword : word ∈ words table) (hc : c ∈ word) : c ∈ table.toList :=
  mem_of_mem_splitOn (List.mem_filter.1 hword).1 hc

namespace IsWordy

variable {table : String}

theorem ascii_word (h : IsWordy table) {word : List Char} (hword : word ∈ words table) :
    ∀ c ∈ word, c.toNat < 0x80 :=
  fun c hc => h.ascii c (mem_of_mem_words hword hc)

/-- The words of a class name can be told apart. -/
theorem isTitled (h : IsWordy table) : ∀ word ∈ (words table).map capitalise, IsTitled word := by
  intro titled htitled
  obtain ⟨word, hword, rfl⟩ := List.mem_map.1 htitled
  have hascii := h.ascii_word hword
  cases word with
  | nil => exact absurd (List.mem_filter.1 hword).2 (by simp)
  | cons c rest =>
    refine ⟨c.toUpper, rest.map Char.toLower, capitalise_cons_ascii hascii,
      isUpper_toUpper (hascii c List.mem_cons_self) (h.letter _ hword c rfl), ?_⟩
    intro d hd
    obtain ⟨e, he, rfl⟩ := List.mem_map.1 hd
    exact isUpper_toLower (hascii e (List.mem_cons_of_mem c he))

end IsWordy

variable {a b : String}

/-- Words that are capitalised alike are the same words, since lower casing forgets the capitals. -/
theorem map_capitalise_eq_iff (ha : IsWordy a) (hb : IsWordy b) :
    (words a).map capitalise = (words b).map capitalise ↔ SameWords a b := by
  constructor
  · intro h
    have hlower := congrArg (List.map (List.map Char.toLower)) h
    rw [List.map_map, List.map_map] at hlower
    rw [SameWords]
    calc (words a).map (·.map Char.toLower)
      _ = (words a).map (List.map Char.toLower ∘ capitalise) :=
        List.map_congr_left fun word hword => (map_toLower_capitalise (ha.ascii_word hword)).symm
      _ = (words b).map (List.map Char.toLower ∘ capitalise) := hlower
      _ = (words b).map (·.map Char.toLower) :=
        List.map_congr_left fun word hword => map_toLower_capitalise (hb.ascii_word hword)
  · intro h
    have hupper := congrArg (List.map capitalise) h
    rw [List.map_map, List.map_map] at hupper
    calc (words a).map capitalise
      _ = (words a).map (capitalise ∘ List.map Char.toLower) :=
        List.map_congr_left fun word hword => (capitalise_map_toLower (ha.ascii_word hword)).symm
      _ = (words b).map (capitalise ∘ List.map Char.toLower) := hupper
      _ = (words b).map capitalise :=
        List.map_congr_left fun word hword => capitalise_map_toLower (hb.ascii_word hword)

theorem className_eq_iff (ha : IsWordy a) (hb : IsWordy b) :
    className a = className b ↔ SameWords a b := by
  rw [← map_capitalise_eq_iff ha hb, className, className, String.ofList_inj, classChars_eq,
    classChars_eq]
  exact ⟨eq_of_flatten_eq ha.isTitled hb.isTitled, congrArg List.flatten⟩

/-- **Tables that collide by their words**: they have one class and one file if they have the same
words, and only then is one of them skipped on account of the other. -/
structure CollideByWords (a b : String) : Prop where
  class_ : className a = className b ↔ SameWords a b
  file : ∀ suffix, fileName a suffix = fileName b suffix ↔ SameWords a b
  /-- No table is skipped on account of one with other words. -/
  refused : ∀ suffix tables, .refused b a ∈ Claim.decide suffix tables → SameWords a b
  /-- A table is skipped if it stands behind one with the same words. -/
  taken : SameWords a b → ∀ (suffix : String) (tables : List String) (i j : Fin tables.length),
    j < i → tables.get j = a → tables.get i = b → i ∈ Claim.takenPlaces suffix tables

/-- **Which tables collide.** Names in words differ in class unless they differ in the case of
letters or in underscores at their ends or beside each other. -/
theorem collideByWords (ha : IsWordy a) (hb : IsWordy b) : CollideByWords a b where
  class_ := className_eq_iff ha hb
  file suffix := by rw [fileName_eq_iff, className_eq_iff ha hb]
  refused suffix tables h := by
    have howner := List.find?_some (Claim.ownerAmong_of_refused h)
    rw [decide_eq_true_eq, fileName_eq_iff] at howner
    exact (className_eq_iff ha hb).1 howner
  taken h suffix tables i j hlt hj hi := by
    refine Claim.mem_takenPlaces.2 ⟨j, hlt, ?_⟩
    show fileName (tables.get j) suffix = fileName (tables.get i) suffix
    rw [hj, hi, fileName_eq_iff]
    exact (className_eq_iff ha hb).2 h

/-- Underscores at the ends and beside each other, and words with digits and other characters. -/
theorem collideByWords_auditLog :
    (IsWordy "_Audit__log2" ∧ IsWordy "audit_LOG2_" ∧ SameWords "_Audit__log2" "audit_LOG2_" ∧
      IsWordy "auditlog2" ∧ ¬ SameWords "audit_LOG2_" "auditlog2") ∧
    CollideByWords "_Audit__log2" "audit_LOG2_" ∧ CollideByWords "audit_LOG2_" "auditlog2" := by
  have haudit : IsWordy "_Audit__log2" := by decide
  have hlog : IsWordy "audit_LOG2_" := by decide
  have hone : IsWordy "auditlog2" := by decide
  exact ⟨⟨haudit, hlog, by decide, hone, by decide⟩, collideByWords haudit hlog,
    collideByWords hlog hone⟩

/-- A word that begins with a digit is lost in the one before it. -/
example : className "a_1" = className "a1" ∧ ¬ SameWords "a_1" "a1" := by decide

end CatalogEntities.Naming
