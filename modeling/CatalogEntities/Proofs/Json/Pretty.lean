import CatalogEntities.Json.Reader
import CatalogEntities.Proofs.Json.Numbers
import Mathlib.Data.List.Forall2

/-!
# `Proofs/Json/Pretty.lean` — pretty texts are read back

What is written in the pretty layout is read as what it is: strings whatever their characters,
integers that fit a machine word, arrays and objects with or without anything in them. Only a double
is not promised to come back as itself, since the reader rounds more than once.

A value reads back as another (`ReadsBack`) at every level of indentation, whatever follows it, and
with as much fuel as its text has characters. That is closed under arrays and objects, and so is
found for a value by its parts.

What follows a value matters for numbers alone, which end where the next character cannot belong to
them (`EndsNumber`); behind an item or a member there is always a comma or a line break. And the
fuel is paid for by the line breaks: each item and each member has one in front, so the text is
longer than there are steps to take. The report of a run is read back through this
(`Proofs/Report.lean`).
-/

set_option autoImplicit false

namespace CatalogEntities.Json

/-! ## Strings -/

def escapedChars (cs : List Char) : List Char := cs.flatMap fun c => (escapeChar c).toList

theorem toList_quote (s : String) : (quote s).toList = '"' :: (escapedChars s.toList ++ ['"']) := by
  rw [quote, String.toList_append, String.toList_append, String.toList_join, List.flatMap_map]
  rfl

theorem hexValue?_hexDigit : ∀ n < 16, Text.hexValue? (Text.hexDigit n) = some n := by decide

theorem readEscaped_hexDigits {n : ℕ} (h : n < 0x20) (rest : List Char) :
    readEscaped ('0' :: '0' :: Text.hexDigit (n / 16) :: Text.hexDigit (n % 16) :: rest) =
      some (Char.ofNat n, rest) := by
  have hzero : Text.hexValue? '0' = some 0 := rfl
  have hhigh := hexValue?_hexDigit (n / 16) (by omega)
  have hlow := hexValue?_hexDigit (n % 16) (by omega)
  have hvalue : 0 * 4096 + 0 * 256 + n / 16 * 16 + n % 16 = n := by omega
  rw [readEscaped, readUnit, hzero, hhigh, hlow]
  dsimp only
  rw [hvalue, if_neg (by omega), if_neg (by omega)]

/-- The characters with an escape of one letter. -/
def shortEscaped : List Char := ['"', '\\', '\n', '\r', '\t', '\x08', '\x0c']

theorem escapeChar_of_not_mem {c : Char} (h : c ∉ shortEscaped) :
    escapeChar c = if c.toNat < 0x20 then
        "\\u00" ++ String.ofList [Text.hexDigit (c.toNat / 16), Text.hexDigit (c.toNat % 16)]
      else String.singleton c := by
  simp only [shortEscaped, List.mem_cons, List.not_mem_nil, or_false, not_or] at h
  obtain ⟨h₁, h₂, h₃, h₄, h₅, h₆, h₇⟩ := h
  rw [escapeChar, if_neg h₁, if_neg h₂, if_neg h₃, if_neg h₄, if_neg h₅, if_neg h₆, if_neg h₇]

/-- **A character is read back**, escaped or not: seven have an escape of one letter, the other
control characters are told by their number, and all others stand for themselves. -/
theorem readChars_escapeChar (c : Char) (fuel : ℕ) (rest : List Char) :
    readChars (fuel + 1) ((escapeChar c).toList ++ rest) =
      (readChars fuel rest).map fun (cs, rest) => (c :: cs, rest) := by
  by_cases hshort : c ∈ shortEscaped
  · simp only [shortEscaped, List.mem_cons, List.not_mem_nil, or_false] at hshort
    rcases hshort with rfl | rfl | rfl | rfl | rfl | rfl | rfl
    all_goals rfl
  rw [escapeChar_of_not_mem hshort]
  split
  · -- two digits are enough for the number, and the first two are zeros
    rename_i hcontrol
    have hread := readEscaped_hexDigits hcontrol rest
    rw [Char.ofNat_toNat] at hread
    have htext : ("\\u00" ++ String.ofList [Text.hexDigit (c.toNat / 16),
          Text.hexDigit (c.toNat % 16)]).toList ++ rest =
        '\\' :: 'u' :: '0' :: '0' :: Text.hexDigit (c.toNat / 16) ::
          Text.hexDigit (c.toNat % 16) :: rest := by
      simp only [String.toList_append, String.toList_ofList]
      rfl
    rw [htext, readChars, hread]
  · rename_i hcontrol
    have hquote : c ≠ '"' := fun heq => hshort (heq ▸ by decide)
    have hbackslash : c ≠ '\\' := fun heq => hshort (heq ▸ by decide)
    have htext : (String.singleton c).toList ++ rest = c :: rest := by
      rw [String.toList_singleton]
      rfl
    rw [htext, readChars]
    · rw [if_neg]
      rintro (h | h)
      · exact hcontrol h
      · exact hbackslash h
    · exact hquote
    · exact fun _ h _ => hbackslash h
    · exact fun _ _ h _ => hbackslash h

/-- **The characters of a string are read back** up to its closing quote. -/
theorem readChars_escapedChars {cs : List Char} {fuel : ℕ} (h : cs.length < fuel)
    (rest : List Char) : readChars fuel (escapedChars cs ++ '"' :: rest) = some (cs, rest) := by
  obtain ⟨fuel, rfl⟩ := Nat.exists_eq_succ_of_ne_zero (Nat.ne_zero_of_lt h)
  induction cs generalizing fuel with
  | nil => rfl
  | cons c cs ih =>
    have hmore : cs.length < fuel := Nat.lt_of_succ_lt_succ h
    obtain ⟨fuel, rfl⟩ := Nat.exists_eq_succ_of_ne_zero (Nat.ne_zero_of_lt hmore)
    rw [escapedChars, List.flatMap_cons, List.append_assoc, readChars_escapeChar]
    have hrest := ih fuel hmore
    rw [escapedChars] at hrest
    rw [hrest]
    rfl

theorem escapeChar_ne_nil (c : Char) : (escapeChar c).toList ≠ [] := by
  by_cases hshort : c ∈ shortEscaped
  · simp only [shortEscaped, List.mem_cons, List.not_mem_nil, or_false] at hshort
    rcases hshort with rfl | rfl | rfl | rfl | rfl | rfl | rfl
    all_goals decide
  · rw [escapeChar_of_not_mem hshort]
    split
    · rw [String.toList_append]
      exact List.append_ne_nil_of_left_ne_nil (by decide) _
    · rw [String.toList_singleton]
      exact List.cons_ne_nil c []

theorem length_le_escapedChars (cs : List Char) : cs.length ≤ (escapedChars cs).length := by
  induction cs with
  | nil => exact Nat.zero_le _
  | cons c cs ih =>
    have hc := List.length_pos_iff.2 (escapeChar_ne_nil c)
    rw [escapedChars, List.flatMap_cons, List.length_append, List.length_cons]
    rw [escapedChars] at ih
    omega

theorem readString_escapedChars (s : String) (rest : List Char) :
    readString (escapedChars s.toList ++ '"' :: rest) = some (s, rest) := by
  have hlength := length_le_escapedChars s.toList
  rw [readString, readChars_escapedChars]
  · rw [Option.map_some]
    dsimp only
    rw [String.ofList_toList]
  · rw [List.length_append]
    omega

/-! ## White space -/

theorem skip_of_head {cs : List Char} (h : ∀ c ∈ cs.head?, isSpace c = false) : skip cs = cs := by
  cases cs with
  | nil => rfl
  | cons c cs => rw [skip, List.dropWhile_cons_of_neg (Bool.eq_false_iff.1 (h c rfl))]

theorem skip_newLine (level : ℕ) (cs : List Char) :
    skip ((newLine level).toList ++ cs) = skip cs := by
  apply List.dropWhile_append_of_pos
  intro c hc
  rw [newLine, String.toList_append] at hc
  rcases List.mem_append.1 hc with hc | hc
  · obtain rfl := List.mem_singleton.1 hc
    rfl
  · rw [String.toList_ofList] at hc
    obtain rfl := List.eq_of_mem_replicate hc
    rfl

/-- White space in front of a value does not count. -/
theorem readValue_congr {cs cs' : List Char} (h : skip cs = skip cs') (fuel : ℕ) :
    readValue fuel cs = readValue fuel cs' := by
  cases fuel with
  | zero => rfl
  | succ fuel => rw [readValue, readValue, h]

theorem readItems_congr {cs cs' : List Char} (h : skip cs = skip cs') (fuel : ℕ) :
    readItems fuel cs = readItems fuel cs' := by
  cases fuel with
  | zero => rfl
  | succ fuel => rw [readItems, readItems, readValue_congr h]

theorem readMembers_congr {cs cs' : List Char} (h : skip cs = skip cs') (fuel : ℕ) :
    readMembers fuel cs = readMembers fuel cs' := by
  cases fuel with
  | zero => rfl
  | succ fuel => rw [readMembers, readMembers, h]

theorem skip_skip (cs : List Char) : skip (skip cs) = skip cs := by
  apply skip_of_head
  intro c hc
  have hhead := List.head?_dropWhile_not isSpace cs
  rw [Option.mem_def, skip] at hc
  rw [hc] at hhead
  simpa using hhead

/-! ## Values -/

theorem endsNumber_nil : EndsNumber [] := by
  intro c hc
  cases hc

theorem endsNumber_comma (rest : List Char) : EndsNumber (',' :: rest) := by
  intro c hc
  obtain rfl := Option.some.inj hc
  decide

theorem endsNumber_newLine (level : ℕ) (rest : List Char) :
    EndsNumber ((newLine level).toList ++ rest) := by
  intro c hc
  rw [newLine, String.toList_append] at hc
  obtain rfl := Option.some.inj hc
  decide

/-- **A value is read back as another**, wherever it stands in a text. The other is the same value
unless there are doubles in it. -/
def ReadsBack (v w : Json) : Prop :=
  ∀ (level fuel : ℕ) (rest : List Char), (prettyAt level v).toList.length ≤ fuel →
    EndsNumber rest → readValue fuel ((prettyAt level v).toList ++ rest) = some (w, rest)

/-- A scalar has the same text at every level, and needs no fuel for its parts. -/
theorem readsBack_of_readValue {v w : Json} (text : String)
    (htext : ∀ level, prettyAt level v = text) (hsome : text.toList ≠ [])
    (h : ∀ fuel rest, EndsNumber rest →
      readValue (fuel + 1) (text.toList ++ rest) = some (w, rest)) :
    ReadsBack v w := by
  intro level fuel rest hfuel hrest
  rw [htext] at hfuel ⊢
  have hlength := List.length_pos_iff.2 hsome
  obtain ⟨fuel, rfl⟩ := Nat.exists_eq_succ_of_ne_zero (Nat.ne_zero_of_lt (hlength.trans_le hfuel))
  exact h fuel rest hrest

theorem readsBack_null : ReadsBack null null :=
  readsBack_of_readValue "null" (fun _ => rfl) (by decide) fun _ _ _ => rfl

theorem readsBack_bool (b : Bool) : ReadsBack (bool b) (bool b) := by
  cases b with
  | false => exact readsBack_of_readValue "false" (fun _ => rfl) (by decide) fun _ _ _ => rfl
  | true => exact readsBack_of_readValue "true" (fun _ => rfl) (by decide) fun _ _ _ => rfl

theorem readsBack_string (s : String) : ReadsBack (string s) (string s) := by
  refine readsBack_of_readValue (quote s) (fun _ => rfl) ?_ ?_
  · rw [toList_quote]
    exact List.cons_ne_nil _ _
  · intro fuel rest _
    rw [toList_quote, List.cons_append, List.append_assoc]
    show (readString (escapedChars s.toList ++ '"' :: rest)).map _ = _
    rw [readString_escapedChars]
    rfl

/-- A text that begins like a number is read as one. -/
theorem readValue_number {c : Char} (hc : c = '-' ∨ c.isDigit = true) (fuel : ℕ) (cs : List Char) :
    readValue (fuel + 1) (c :: cs) = readNumber (c :: cs) := by
  have hother : ∀ d, ¬(d = '-' ∨ Char.isDigit d = true) → c ≠ d := by
    rintro d hd rfl
    exact hd hc
  have hspace : isSpace c = false := by
    simp only [isSpace, Bool.or_eq_false_iff, decide_eq_false_iff_not]
    exact ⟨⟨⟨hother _ (by decide), hother _ (by decide)⟩, hother _ (by decide)⟩,
      hother _ (by decide)⟩
  have hskip : skip (c :: cs) = c :: cs := by
    apply skip_of_head
    intro d hd
    obtain rfl := Option.some.inj hd
    exact hspace
  rw [readValue, hskip]
  split
  -- every other value begins with a character of its own
  all_goals first
    | rfl
    | rename_i heq
      exact absurd (List.cons.inj heq).1 (hother _ (by decide))

theorem takeWhole_eq_none {c : Char} (hc : c.isDigit = false) (cs : List Char) :
    takeWhole (c :: cs) = none := by
  unfold takeWhole
  split
  · rename_i heq
    obtain ⟨rfl, -⟩ := List.cons.inj heq
    exact Bool.noConfusion hc
  · rw [List.takeWhile_cons_of_neg (Bool.eq_false_iff.1 hc)]
    rfl

/-- What is read as a number begins like one. -/
theorem readValue_of_readNumber {cs rest : List Char} {v : Json}
    (h : readNumber cs = some (v, rest)) (fuel : ℕ) : readValue (fuel + 1) cs = some (v, rest) := by
  cases cs with
  | nil => cases h
  | cons c cs =>
    rw [← h]
    apply readValue_number
    by_contra hc
    rw [not_or, Bool.not_eq_true] at hc
    have hunsigned : readNumber (c :: cs) = readUnsigned false (c :: cs) :=
      readNumber_signChars false fun d hd => by
        obtain rfl := Option.some.inj hd
        exact hc.1
    rw [hunsigned, readUnsigned, takeWhole_eq_none hc.2] at h
    cases h

theorem readsBack_of_readNumber {v w : Json} (text : String)
    (htext : ∀ level, prettyAt level v = text)
    (h : ∀ rest, EndsNumber rest → readNumber (text.toList ++ rest) = some (w, rest)) :
    ReadsBack v w := by
  refine readsBack_of_readValue text htext ?_ fun fuel rest hrest =>
    readValue_of_readNumber (h rest hrest) fuel
  rintro hnil
  have hread := h [] endsNumber_nil
  rw [hnil] at hread
  cases hread

theorem readsBack_integer {n : ℤ} (h : fitsWord n = true) : ReadsBack (integer n) (integer n) :=
  readsBack_of_readNumber (toString n) (fun _ => rfl) fun _ => readNumber_toString h

theorem exists_readsBack_float {d : Double} (h : d.Finite) :
    ∃ e, ReadsBack (float d) (float e) := by
  obtain ⟨e, he⟩ := exists_readNumber_text h
  exact ⟨e, readsBack_of_readNumber (d.text .compact) (fun _ => rfl) he⟩

/-! ## Arrays and objects -/

/-- Entries of a level, one a line. -/
def lines (level : ℕ) (entries : List String) : String :=
  ",".intercalate (entries.map (newLine level ++ ·))

theorem toList_lines_singleton (level : ℕ) (entry : String) :
    (lines level [entry]).toList = (newLine level).toList ++ entry.toList := by
  rw [lines, List.map_singleton, String.intercalate_singleton, String.toList_append]

theorem toList_lines_cons (level : ℕ) (entry next : String) (entries : List String) :
    (lines level (entry :: next :: entries)).toList =
      (newLine level).toList ++
        (entry.toList ++ ',' :: (lines level (next :: entries)).toList) := by
  simp only [lines, List.map_cons, String.intercalate_cons_cons, String.toList_append,
    List.append_assoc]
  rfl

theorem block_nil (opening closing : String) (level : ℕ) :
    block opening closing level [] = opening ++ closing := rfl

theorem block_of_ne_nil {opening closing : String} {level : ℕ} {entries : List String}
    (h : entries ≠ []) : (block opening closing level entries).toList =
      opening.toList ++ ((lines (level + 1) entries).toList ++ ((newLine level).toList ++
        closing.toList)) := by
  rw [block, if_neg (by rwa [List.isEmpty_iff])]
  simp only [String.toList_append, List.append_assoc, lines]

theorem length_newLine_pos (level : ℕ) : 0 < (newLine level).toList.length := by
  rw [newLine, String.toList_append, List.length_append]
  exact Nat.add_pos_left Nat.one_pos _

/-- An entry on its line is read with less fuel than its line has characters. -/
theorem readValue_entry {level : ℕ} {v w : Json} (h : ReadsBack v w) {fuel : ℕ} {rest : List Char}
    (hfuel : (prettyAt level v).toList.length ≤ fuel) (hrest : EndsNumber rest) :
    readValue fuel ((newLine level).toList ++ ((prettyAt level v).toList ++ rest)) =
      some (w, rest) := by
  rw [readValue_congr (skip_newLine level _)]
  exact h level fuel rest hfuel hrest

theorem skip_newLine_cons (level : ℕ) {c : Char} (hc : isSpace c = false) (rest : List Char) :
    skip ((newLine level).toList ++ c :: rest) = c :: rest := by
  rw [skip_newLine]
  apply skip_of_head
  intro d hd
  obtain rfl := Option.some.inj hd
  exact hc

/-- **Items on lines are read back**, up to the bracket that closes them. The induction is on the
items behind the first, since it is those that a comma announces. -/
theorem readItems_lines (level fuel : ℕ) {v w : Json} {vs ws : List Json} (hv : ReadsBack v w)
    (hvs : List.Forall₂ ReadsBack vs ws)
    (hfuel : (lines (level + 1) (prettyItems (level + 1) (v :: vs))).toList.length ≤ fuel)
    (rest : List Char) :
    readItems fuel ((lines (level + 1) (prettyItems (level + 1) (v :: vs))).toList ++
      ((newLine level).toList ++ ']' :: rest)) = some (w :: ws, rest) := by
  -- an item takes one of the fuel, which the break in front of it pays for
  have hline := length_newLine_pos (level + 1)
  induction hvs generalizing v w fuel with
  | nil =>
    rw [prettyItems, prettyItems, toList_lines_singleton] at hfuel ⊢
    rw [List.length_append] at hfuel
    obtain ⟨fuel, rfl⟩ := Nat.exists_eq_succ_of_ne_zero (n := fuel) (by omega)
    rw [List.append_assoc, readItems, readValue_entry hv (by omega) (endsNumber_newLine level _)]
    dsimp only
    rw [skip_newLine_cons level (c := ']') rfl]
    rfl
  | @cons next nextBack vs ws hnext hvs ih =>
    rw [prettyItems, prettyItems, toList_lines_cons] at hfuel ⊢
    rw [List.length_append, List.length_append, List.length_cons] at hfuel
    obtain ⟨fuel, rfl⟩ := Nat.exists_eq_succ_of_ne_zero (n := fuel) (by omega)
    have hrest := ih fuel hnext (by rw [prettyItems]; omega)
    rw [prettyItems] at hrest
    rw [List.append_assoc, List.append_assoc, List.cons_append, readItems,
      readValue_entry hv (by omega) (endsNumber_comma _)]
    show (readItems fuel _).map _ = _
    rw [hrest]
    rfl

/-- Members with equal names, whose values are read back. -/
def MemberReadsBack (p q : String × Json) : Prop := p.1 = q.1 ∧ ReadsBack p.2 q.2

/-- What is read behind a member: the closing brace, or more members. -/
def readBehind (fuel : ℕ) (member : String × Json) (rest : List Char) :
    Option (List (String × Json) × List Char) :=
  match skip rest with
  | '\x7d' :: rest => some ([member], rest)
  | ',' :: rest => (readMembers fuel rest).map fun (members, rest) => (member :: members, rest)
  | _ => none

/-- A member on its line: its name is read up to the quote, its value behind the colon. -/
theorem readMembers_entry {level : ℕ} (name : String) {v w : Json} (h : ReadsBack v w) {fuel : ℕ}
    {rest : List Char} (hfuel : (prettyAt level v).toList.length ≤ fuel) (hrest : EndsNumber rest) :
    readMembers (fuel + 1) ((newLine level).toList ++
        ((quote name ++ ": " ++ prettyAt level v).toList ++ rest)) =
      readBehind fuel (name, w) rest := by
  have htext : (quote name ++ ": " ++ prettyAt level v).toList ++ rest =
      '"' :: (escapedChars name.toList ++ '"' :: ':' :: ' ' ::
        ((prettyAt level v).toList ++ rest)) := by
    simp only [String.toList_append, toList_quote, List.cons_append, List.append_assoc]
    rfl
  have hspace : skip (' ' :: ((prettyAt level v).toList ++ rest)) =
      skip ((prettyAt level v).toList ++ rest) := rfl
  have hcolon : ∀ cs, skip (':' :: cs) = ':' :: cs := fun _ => rfl
  -- the blank behind the colon does not count
  have hvalue : readValue fuel (' ' :: ((prettyAt level v).toList ++ rest)) = some (w, rest) := by
    rw [readValue_congr hspace, h level fuel rest hfuel hrest]
  rw [htext, readMembers, skip_newLine_cons level rfl]
  simp only [readString_escapedChars, hcolon, hvalue]
  rfl

/-- **Members on lines are read back**, as items are. -/
theorem readMembers_lines (level fuel : ℕ) {p q : String × Json} {ps qs : List (String × Json)}
    (hp : MemberReadsBack p q) (hps : List.Forall₂ MemberReadsBack ps qs)
    (hfuel : (lines (level + 1) (prettyMembers (level + 1) (p :: ps))).toList.length ≤ fuel)
    (rest : List Char) :
    readMembers fuel ((lines (level + 1) (prettyMembers (level + 1) (p :: ps))).toList ++
      ((newLine level).toList ++ '\x7d' :: rest)) = some (q :: qs, rest) := by
  -- a member takes one of the fuel too, and its value no more than the rest of its line
  have hline := length_newLine_pos (level + 1)
  have hlength : ∀ (name : String) (v : Json), (prettyAt (level + 1) v).toList.length ≤
      (quote name ++ ": " ++ prettyAt (level + 1) v).toList.length := by
    intro name v
    rw [String.toList_append, List.length_append]
    exact Nat.le_add_left _ _
  induction hps generalizing p q fuel with
  | nil =>
    obtain ⟨name, v⟩ := p
    obtain ⟨name', w⟩ := q
    obtain ⟨rfl, hv⟩ : name = name' ∧ ReadsBack v w := hp
    have hentry := hlength name v
    rw [prettyMembers, prettyMembers, toList_lines_singleton] at hfuel ⊢
    rw [List.length_append] at hfuel
    obtain ⟨fuel, rfl⟩ := Nat.exists_eq_succ_of_ne_zero (n := fuel) (by omega)
    rw [List.append_assoc, readMembers_entry name hv (by omega) (endsNumber_newLine level _),
      readBehind, skip_newLine_cons level rfl]
    rfl
  | @cons next nextBack ps qs hnext hps ih =>
    obtain ⟨name, v⟩ := p
    obtain ⟨name', w⟩ := q
    obtain ⟨rfl, hv⟩ : name = name' ∧ ReadsBack v w := hp
    have hentry := hlength name v
    rw [prettyMembers, prettyMembers, toList_lines_cons] at hfuel ⊢
    rw [List.length_append, List.length_append, List.length_cons] at hfuel
    obtain ⟨fuel, rfl⟩ := Nat.exists_eq_succ_of_ne_zero (n := fuel) (by omega)
    have hrest := ih fuel hnext (by rw [prettyMembers]; omega)
    rw [prettyMembers] at hrest
    rw [List.append_assoc, List.append_assoc, List.cons_append,
      readMembers_entry name hv (by omega) (endsNumber_comma _)]
    show (readMembers fuel _).map _ = _
    rw [hrest]
    rfl

/-- Where a bracket closes there are no items. -/
theorem readItems_bracket (fuel : ℕ) (rest : List Char) : readItems fuel (']' :: rest) = none := by
  cases fuel with
  | zero => rfl
  | succ fuel =>
    rw [readItems]
    cases fuel with
    | zero => rfl
    | succ fuel => rfl

theorem readMembers_brace (fuel : ℕ) (rest : List Char) :
    readMembers fuel ('\x7d' :: rest) = none := by
  cases fuel with
  | zero => rfl
  | succ fuel => rfl

/-- Items behind a bracket are those of an array that is not empty. -/
theorem readValue_items {fuel : ℕ} {cs rest : List Char} {ws : List Json}
    (h : readItems fuel cs = some (ws, rest)) :
    readValue (fuel + 1) ('[' :: cs) = some (array ws, rest) := by
  have hskip := readItems_congr (skip_skip cs) fuel
  have hopening : skip ('[' :: cs) = '[' :: cs := rfl
  rw [readValue]
  simp only [hopening]
  split
  · -- no items are read from an array that closes at once
    rename_i heq
    rw [heq, h, readItems_bracket] at hskip
    cases hskip
  · rw [hskip, h]
    rfl

theorem readValue_members {fuel : ℕ} {cs rest : List Char} {qs : List (String × Json)}
    (h : readMembers fuel cs = some (qs, rest)) :
    readValue (fuel + 1) ('\x7b' :: cs) = some (object qs, rest) := by
  have hskip := readMembers_congr (skip_skip cs) fuel
  have hopening : skip ('\x7b' :: cs) = '\x7b' :: cs := rfl
  rw [readValue]
  simp only [hopening]
  split
  · rename_i heq
    rw [heq, h, readMembers_brace] at hskip
    cases hskip
  · rw [hskip, h]
    rfl

/-- **An array is read back** if its items are. An empty one is written without a line break, and so
has a case of its own. -/
theorem readsBack_array {vs ws : List Json} (h : List.Forall₂ ReadsBack vs ws) :
    ReadsBack (array vs) (array ws) := by
  intro level fuel rest hfuel _
  rw [prettyAt] at hfuel ⊢
  cases h with
  | nil =>
    have htext : ("[" ++ "]").toList = ['[', ']'] := rfl
    rw [prettyItems, block_nil, htext] at hfuel ⊢
    obtain ⟨fuel, rfl⟩ := Nat.exists_eq_add_of_le' (m := 1) (le_trans (by decide) hfuel)
    rfl
  | @cons v w vs ws hv hvs =>
    have hbracket : "[".toList = ['['] := rfl
    have hsome : prettyItems (level + 1) (v :: vs) ≠ [] := by
      rw [prettyItems]
      exact List.cons_ne_nil _ _
    rw [block_of_ne_nil hsome, hbracket] at hfuel ⊢
    simp only [List.length_append, List.length_singleton] at hfuel
    obtain ⟨fuel, rfl⟩ := Nat.exists_eq_add_of_le' (m := 1) (n := fuel) (by omega)
    -- the bracket has paid for the step into the array
    have hitems := readItems_lines level fuel hv hvs (by omega) rest
    simp only [List.append_assoc]
    exact readValue_items hitems

/-- **An object is read back** if its members are. -/
theorem readsBack_object {ps qs : List (String × Json)} (h : List.Forall₂ MemberReadsBack ps qs) :
    ReadsBack (object ps) (object qs) := by
  intro level fuel rest hfuel _
  rw [prettyAt] at hfuel ⊢
  cases h with
  | nil =>
    have htext : ("\x7b" ++ "\x7d").toList = ['\x7b', '\x7d'] := rfl
    rw [prettyMembers, block_nil, htext] at hfuel ⊢
    obtain ⟨fuel, rfl⟩ := Nat.exists_eq_add_of_le' (m := 1) (le_trans (by decide) hfuel)
    rfl
  | @cons p q ps qs hp hps =>
    have hbrace : "\x7b".toList = ['\x7b'] := rfl
    have hsome : prettyMembers (level + 1) (p :: ps) ≠ [] := by
      rw [prettyMembers]
      exact List.cons_ne_nil _ _
    rw [block_of_ne_nil hsome, hbrace] at hfuel ⊢
    simp only [List.length_append, List.length_singleton] at hfuel
    obtain ⟨fuel, rfl⟩ := Nat.exists_eq_add_of_le' (m := 1) (n := fuel) (by omega)
    have hmembers := readMembers_lines level fuel hp hps (by omega) rest
    simp only [List.append_assoc]
    exact readValue_members hmembers

/-- **A pretty text is read back.** -/
theorem ReadsBack.read?_pretty {v w : Json} (h : ReadsBack v w) : read? v.pretty = some w := by
  have hread := h 0 (2 * v.pretty.length + 2) [] (by
    show v.pretty.toList.length ≤ _
    rw [String.length_toList]
    omega) endsNumber_nil
  rw [List.append_nil] at hread
  have htext : readValue (2 * v.pretty.length + 2) v.pretty.toList = some (w, []) := hread
  rw [read?, htext]
  rfl

end CatalogEntities.Json
