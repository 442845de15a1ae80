import CatalogEntities.Proofs.Text.Casing
import CatalogEntities.Settings.Validity

/-!
# `Proofs/TlsMode.lean` — which texts are read as a mode

A mode is compared after lower casing of the whole text, and lower casing is Unicode's. So it has to
be asked what else has one of the four words for its lower case: a character beyond ASCII may lead
into ASCII, and the lower case of a capital sigma depends on what stands around it.

The tables are looked at once. Beyond ASCII there are only two characters with an ASCII letter in
their lower case: the dotted capital I, which brings a combining dot along, and the Kelvin sign,
which becomes `k` (`exists_beyond_of_lower`). No word of a mode has a `k`. So a text is read as a
mode exactly if it is the word up to the case of ASCII letters, and as no mode if any character of
it is beyond ASCII.

A fifth word with a `k` in it would be read from a text with the Kelvin sign as well, and the only
proof that notices is that of `plain_word`. The empty text is a word of its own to `SslMode::parse`,
and counts as `require`.
-/

set_option autoImplicit false

namespace CatalogEntities

namespace Text

/-! ## Lower case that leads into ASCII -/

/-- Whether a run leads to characters beyond ASCII, or has the one member that becomes a `k`. -/
def CaseRun.avoidsAscii (r : CaseRun) : Bool :=
  0x80 ≤ r.target || (r.first = r.last && r.target = 'k'.toNat)

theorem lowerRuns_avoidAscii : ∀ r ∈ lowerRuns, r.avoidsAscii = true :=
  List.all_eq_true.1 (by decide +kernel)

theorem lowerExpansions_beyond : ∀ e ∈ lowerExpansions, e.2.any (0x80 ≤ ·) = true :=
  List.all_eq_true.1 (by decide +kernel)

theorem toNat_ofNat_of_isCaseImage {n : Nat} (h : isCaseImage n = true) :
    (Char.ofNat n).toNat = n := by
  simp only [isCaseImage, Bool.and_eq_true, decide_eq_true_eq] at h
  rw [Char.ofNat, dif_pos h.1]
  rfl

/-- **The lower case of a character beyond ASCII has a character beyond ASCII**, or it is the one
letter that the Kelvin sign becomes. -/
theorem exists_beyond_of_lower {c : Char} (hc : 0x80 ≤ c.toNat) :
    (∃ d ∈ lower c, 0x80 ≤ d.toNat) ∨ lower c = ['k'] := by
  rw [lower, if_neg (by omega)]
  unfold mapCase
  -- an expansion, the image in a run, or the character itself
  split
  · -- each expansion brings something along that is beyond ASCII
    rename_i image hfind
    have hmem := List.mem_of_find?_eq_some hfind
    obtain ⟨n, hn, hbeyond⟩ := List.any_eq_true.1 (lowerExpansions_beyond _ hmem)
    have himage := List.all_eq_true.1 (lowerExpansions_proper _ hmem) n hn
    refine Or.inl ⟨Char.ofNat n, List.mem_map_of_mem hn, ?_⟩
    rw [toNat_ofNat_of_isCaseImage himage]
    exact of_decide_eq_true hbeyond
  · split
    · rename_i run hfind
      have hmem := List.mem_of_find?_eq_some hfind
      have hhas : run.has c.toNat = true := by simpa using List.find?_some hfind
      have himage := CaseRun.isCaseImage_image (lowerRuns_proper _ hmem) hhas
      have havoids := lowerRuns_avoidAscii _ hmem
      simp only [CaseRun.avoidsAscii, Bool.or_eq_true, Bool.and_eq_true,
        decide_eq_true_eq] at havoids
      -- the run leads beyond ASCII, or it is the run of the Kelvin sign alone
      rcases havoids with hbeyond | ⟨hone, hk⟩
      · refine Or.inl ⟨_, List.mem_singleton_self _, ?_⟩
        rw [toNat_ofNat_of_isCaseImage himage]
        exact Nat.le_trans hbeyond (Nat.le_add_right _ _)
      · right
        simp only [CaseRun.has, Bool.and_eq_true, decide_eq_true_eq] at hhas
        have htarget : run.image c.toNat = 'k'.toNat := by
          unfold CaseRun.image
          omega
        rw [htarget, Char.ofNat_toNat]
    · exact Or.inl ⟨c, List.mem_singleton_self c, hc⟩

theorem toNat_lt_of_toLower {c : Char} (h : c.toLower.toNat < 0x80) : c.toNat < 0x80 := by
  unfold Char.toLower at h
  split at h
  · rename_i hupper
    exact Nat.lt_of_le_of_lt (UInt32.le_iff_toNat_le.1 hupper.2) (by decide)
  · exact h

/-! ## Whole texts -/

/-- In ASCII the neighbours of a character do not matter. -/
theorem lowerAfter_ascii {before text : List Char} (h : ∀ c ∈ text, c.toNat < 0x80) :
    lowerAfter before text = text.map Char.toLower := by
  induction text generalizing before with
  | nil => rfl
  | cons c rest ih =>
    have hc := h c List.mem_cons_self
    have hsigma : c ≠ 'Σ' := by
      rintro rfl
      exact absurd hc (by decide)
    rw [lowerAfter, if_neg hsigma, lower_of_ascii hc,
      ih fun d hd => h d (List.mem_cons_of_mem c hd)]
    rfl

/-- **A text whose lower case is in ASCII is in ASCII itself**, if no `k` is in that. The induction
keeps what stands before a character free, on which the lower case of a sigma depends. -/
theorem ascii_of_lowerAfter {before text : List Char}
    (h : ∀ d ∈ lowerAfter before text, d.toNat < 0x80 ∧ d ≠ 'k') :
    ∀ c ∈ text, c.toNat < 0x80 := by
  induction text generalizing before with
  | nil => exact fun c hc => absurd hc List.not_mem_nil
  | cons c rest ih =>
    rw [lowerAfter] at h
    have hfirst := fun d hd => h d (List.mem_append_left _ hd)
    have hrest := ih fun d hd => h d (List.mem_append_right _ hd)
    intro d hd
    rcases List.mem_cons.1 hd with rfl | hd
    · split at hfirst
      · -- either small sigma is beyond ASCII
        split at hfirst
        · exact absurd (hfirst 'ς' List.mem_cons_self).1 (by decide)
        · exact absurd (hfirst 'σ' List.mem_cons_self).1 (by decide)
      · refine Nat.lt_of_not_le fun hbeyond => ?_
        rcases exists_beyond_of_lower hbeyond with ⟨e, he, hbeyond⟩ | hk
        · exact absurd (hfirst e he).1 (Nat.not_lt.2 hbeyond)
        · exact (hfirst 'k' (hk ▸ List.mem_cons_self)).2 rfl
    · exact hrest d hd

/-- **What has a word for its lower case** is the word up to the case of ASCII letters. -/
theorem lowerText_eq_iff {text word : String}
    (hword : ∀ d ∈ word.toList, d.toNat < 0x80 ∧ d ≠ 'k') :
    lowerText text = word ↔ text.toList.map Char.toLower = word.toList := by
  rw [lowerText, ← String.toList_inj, String.toList_ofList]
  constructor
  · intro h
    rw [← h] at hword ⊢
    exact (lowerAfter_ascii (ascii_of_lowerAfter hword)).symm
  · intro h
    rw [← h]
    apply lowerAfter_ascii
    intro c hc
    apply toNat_lt_of_toLower
    have hmem : c.toLower ∈ word.toList := h ▸ List.mem_map_of_mem hc
    exact (hword _ hmem).1

end Text

namespace TlsMode

open Text

/-! ## The words of the modes -/

/-- The word of a mode, as the settings have it. -/
def word : TlsMode → String
  | disable => "disable"
  | require => "require"
  | verifyCa => "verify-ca"
  | verifyFull => "verify-full"

/-- **A text that names a mode**: its word, up to the case of ASCII letters. -/
def IsNamedBy (mode : TlsMode) (text : String) : Prop :=
  text.toList.map Char.toLower = mode.word.toList

instance (mode : TlsMode) (text : String) : Decidable (mode.IsNamedBy text) :=
  inferInstanceAs (Decidable (_ = _))

/-- What is accepted after lower casing. -/
theorem ofWord?_eq_some_iff {text : String} {mode : TlsMode} :
    ofWord? text = some mode ↔ text = mode.word ∨ (text = "" ∧ mode = require) := by
  constructor
  · intro h
    unfold ofWord? at h
    split at h
    · exact Or.inl (Option.some.inj h ▸ rfl)
    · exact Or.inl (Option.some.inj h ▸ rfl)
    · exact Or.inr ⟨rfl, (Option.some.inj h).symm⟩
    · exact Or.inl (Option.some.inj h ▸ rfl)
    · exact Or.inl (Option.some.inj h ▸ rfl)
    · cases h
  · rintro (rfl | ⟨rfl, rfl⟩)
    · cases mode
      all_goals rfl
    · rfl

theorem plain_word (mode : TlsMode) : ∀ d ∈ mode.word.toList, d.toNat < 0x80 ∧ d ≠ 'k' := by
  cases mode
  all_goals simp [word]

/-- **How a text is read as a mode.** -/
structure ReadByWord (text : String) : Prop where
  /-- It is read as a mode exactly if it names it, or is empty. -/
  accepts : ∀ mode, read? text = some mode ↔ mode.IsNamedBy text ∨ (text = "" ∧ mode = require)
  /-- No text with a character beyond ASCII is read. -/
  ascii : (read? text).isSome = true → ∀ c ∈ text.toList, c.toNat < 0x80
  /-- Settings are accepted or refused by the same rule. -/
  settings : ∀ s : DatabaseSettings, s.sslMode = text → ∀ mode,
    (s.tlsMode = .ok mode ↔ mode.IsNamedBy text ∨ (text = "" ∧ mode = require))
  /-- So a mode is a fault if it is neither empty nor any of the words. -/
  refused : ∀ s : DatabaseSettings, s.sslMode = text →
    ((∃ fault, s.tlsMode = .error fault) ↔ text ≠ "" ∧ ∀ mode : TlsMode, ¬ mode.IsNamedBy text)

theorem read?_eq_some_iff {text : String} {mode : TlsMode} :
    read? text = some mode ↔ mode.IsNamedBy text ∨ (text = "" ∧ mode = require) := by
  have hempty : lowerText text = "" ↔ text = "" := by
    rw [lowerText_eq_iff (by simp)]
    simp
  rw [read?, ofWord?_eq_some_iff, lowerText_eq_iff mode.plain_word, hempty]
  rfl

theorem IsNamedBy.ascii {text : String} {mode : TlsMode} (h : mode.IsNamedBy text) :
    ∀ c ∈ text.toList, c.toNat < 0x80 := by
  intro c hc
  apply toNat_lt_of_toLower
  have hmem : c.toLower ∈ mode.word.toList := h ▸ List.mem_map_of_mem hc
  exact (mode.plain_word _ hmem).1

/-- **No look-alike is read as a mode.** Only the four words are, in either case of ASCII letters,
and the empty text. -/
theorem readByWord (text : String) : ReadByWord text := by
  have hsettings : ∀ s : DatabaseSettings, s.sslMode = text → ∀ mode,
      (s.tlsMode = .ok mode ↔ mode.IsNamedBy text ∨ (text = "" ∧ mode = require)) := by
    intro s hs mode
    rw [Settings.tlsMode_eq_ok_iff, hs, read?_eq_some_iff]
  refine ⟨fun _ => read?_eq_some_iff, ?_, hsettings, ?_⟩
  · intro hsome
    obtain ⟨mode, hmode⟩ := Option.isSome_iff_exists.1 hsome
    rcases read?_eq_some_iff.1 hmode with hnamed | ⟨rfl, -⟩
    · exact hnamed.ascii
    · simp
  · -- settings have a mode or a fault, and a mode is one of those that the text names
    intro s hs
    cases htls : s.tlsMode with
    | ok mode =>
      have hnamed := (hsettings s hs mode).1 htls
      constructor
      · rintro ⟨fault, hfault⟩
        cases hfault
      · rintro ⟨hne, hnone⟩
        rcases hnamed with hnamed | ⟨rfl, -⟩
        · exact absurd hnamed (hnone mode)
        · exact absurd rfl hne
    | error fault =>
      have hnot := fun mode => mt (hsettings s hs mode).2 (by rw [htls]; simp)
      refine iff_of_true ⟨fault, rfl⟩ ⟨?_, ?_⟩
      · intro hempty
        exact hnot require (Or.inr ⟨hempty, rfl⟩)
      · intro mode hnamed
        exact hnot mode (Or.inl hnamed)

/-- The Kelvin sign has an ASCII letter for its lower case, but one that no mode has. -/
example : lowerText "\u212A" = "k" ∧ read? "REQU\u0130RE" = none := by decide +kernel

end TlsMode

end CatalogEntities
