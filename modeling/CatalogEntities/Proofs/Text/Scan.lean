import CatalogEntities.Proofs.Text.Pieces
import CatalogEntities.Proofs.Text.Reader

/-!
# `Proofs/Text/Scan.lean` — a literal ends where it was closed

Nothing but the backslashes in front of quotes and backslashes keeps a literal apart from what
follows it. `Scans` is what it means to look for the end of a literal, one rule for each kind of
character; the reader of `Text/Quoted.lean` does this and nothing else (`readBody_eq_some_iff`).

Two facts carry the rest. A scan of a literal ends at its last character whatever follows, so the
text in front tells the literal. And a scan that ends does not care for more text behind
(`Scans.append`), so none ends earlier: no value can close its own literal.

Lists of literals are read by taking literals off as long as what stands in between leads to another
one. This is also right for a list that is followed by something of the same beginning, as the type
of a column with labels is that accepts null.
-/

set_option autoImplicit false

namespace CatalogEntities

namespace Text

variable {q : Char} {text value rest : List Char}

/-! ## The scan of a literal -/

/-- **A scan for the end of a literal**, from behind its opening quote: the value that it finds and
the text that it leaves. -/
inductive Scans (q : Char) : List Char → List Char → List Char → Prop
  /-- A quote that is not taken closes the literal. -/
  | closed (rest : List Char) : Scans q (q :: rest) [] rest
  /-- A backslash takes the next character as it is. -/
  | taken (c : Char) {text value rest : List Char} (h : Scans q text value rest) :
      Scans q ('\\' :: c :: text) (c :: value) rest
  /-- Any other character but the quote stands for itself. -/
  | plain {c : Char} {text value rest : List Char} (hb : c ≠ '\\') (hq : c ≠ q)
      (h : Scans q text value rest) : Scans q (c :: text) (c :: value) rest

/-- A scan of a literal from its opening quote. -/
def ScansLiteral (q : Char) (text value rest : List Char) : Prop :=
  ∃ body, text = q :: body ∧ Scans q body value rest

/-- More text behind a literal is left with the rest. -/
theorem Scans.append (h : Scans q text value rest) (more : List Char) :
    Scans q (text ++ more) value (rest ++ more) := by
  induction h with
  | closed rest => exact .closed (rest ++ more)
  | taken c _ ih => exact .taken c ih
  | plain hb hq _ ih => exact .plain hb hq ih

theorem ScansLiteral.append (h : ScansLiteral q text value rest) (more : List Char) :
    ScansLiteral q (text ++ more) value (rest ++ more) := by
  obtain ⟨body, rfl, hscan⟩ := h
  exact ⟨body ++ more, rfl, hscan.append more⟩

section

variable (hq : q ≠ '\\')

include hq

/-- **The reader scans.** -/
theorem readBody_eq_some_iff :
    readBody q text = some (value, rest) ↔ Scans q text value rest := by
  constructor
  · intro h
    fun_induction readBody q text generalizing value with
    | case1 => exact absurd h (by simp)
    | case2 => exact absurd h (by simp)
    | case3 c text ih =>
      obtain ⟨⟨found, left⟩, hread, hpair⟩ := Option.map_eq_some_iff.1 h
      obtain ⟨rfl, rfl⟩ := Prod.mk.inj hpair
      exact .taken c (ih hread)
    | case4 text =>
      obtain ⟨rfl, rfl⟩ := Prod.mk.inj (Option.some.inj h)
      exact .closed text
    | case5 c text hlast htakes hc ih =>
      obtain ⟨⟨found, left⟩, hread, hpair⟩ := Option.map_eq_some_iff.1 h
      obtain ⟨rfl, rfl⟩ := Prod.mk.inj hpair
      -- a backslash would have been one of the two cases before
      have hb : c ≠ '\\' := by
        intro hc
        cases text with
        | nil => exact hlast hc rfl
        | cons d text => exact htakes d text hc rfl
      exact .plain hb hc (ih hread)
  · intro h
    induction h with
    | closed rest => simp [readBody, hq]
    | taken c _ ih => simp [readBody, ih]
    | plain hb hne _ ih => simp [readBody, hb, hne, ih]

/-- The same from the opening quote on. -/
theorem readQuoted_eq_some_iff :
    readQuoted q text = some (value, rest) ↔ ScansLiteral q text value rest := by
  unfold ScansLiteral
  cases text with
  | nil => simp [readQuoted]
  | cons c body =>
    by_cases hc : c = q
    · simp [readQuoted, hc, readBody_eq_some_iff hq]
    · simp [readQuoted, hc]

/-- **A scan of a literal finds its value and leaves what follows it**, and nothing else. -/
theorem scansLiteral_quoted_iff {found left : List Char} :
    ScansLiteral q (quoted q value ++ rest) found left ↔ found = value ∧ left = rest := by
  rw [← readQuoted_eq_some_iff hq, readQuoted_quoted hq, Option.some.injEq, Prod.mk.injEq,
    eq_comm (a := value), eq_comm (a := rest)]

/-- **No value closes its own literal**: in front of its last character there is no scan that
ends. -/
theorem not_scansLiteral_of_short {part : List Char} (hpart : part <+: quoted q value)
    (hne : part ≠ quoted q value) (found left : List Char) :
    ¬ ScansLiteral q part found left := by
  intro hscan
  obtain ⟨more, hmore⟩ := hpart
  have hwhole : ScansLiteral q (quoted q value ++ []) found (left ++ more) := by
    rw [List.append_nil, ← hmore]
    exact hscan.append more
  have hleft := ((scansLiteral_quoted_iff hq).1 hwhole).2
  rw [(List.append_eq_nil_iff.1 hleft).2, List.append_nil] at hmore
  exact hne hmore

end

/-! ## Lists of literals -/

/-- Takes literals off a text, each with a given text in front. There is fuel for so many. -/
def takeLiterals (q : Char) (between : String) : Nat → List Char → List String × List Char
  | 0, text => ([], text)
  | fuel + 1, text =>
      match (after? between text).bind (readQuoted q) with
      | none => ([], text)
      | some (value, rest) =>
          let (values, rest) := takeLiterals q between fuel rest
          (String.ofList value :: values, rest)

/-- **Splits a list of literals** with a given text in between: the values, and what follows. -/
def splitLiterals (q : Char) (between : String) (text : List Char) : List String × List Char :=
  match readQuoted q text with
  | none => ([], text)
  | some (value, rest) =>
      let (values, rest) := takeLiterals q between rest.length rest
      (String.ofList value :: values, rest)

/-- Where a list of literals ends: there is no literal, nor one behind what stands in between. -/
structure EndsList (q : Char) (between : String) (rest : List Char) : Prop where
  /-- A literal would be one more value of an empty list, -/
  literal : readQuoted q rest = none
  /-- and one behind what stands in between would go on with a list that is not empty. -/
  another : (after? between rest).bind (readQuoted q) = none

/-- A list may end where the text does. -/
theorem endsList_nil (q : Char) (between : String) : EndsList q between [] where
  literal := rfl
  another := by
    rw [Option.bind_eq_none_iff]
    intro text htext
    have hempty := List.isPrefixOf?_eq_some_iff_append_eq.1 htext
    rw [(List.append_eq_nil_iff.1 hempty).2]
    rfl

/-- There is at least a character for every literal. -/
theorem length_le_flatMap_quoted (q : Char) (between : String) (values : List String) :
    values.length ≤
      (values.flatMap fun value => between.toList ++ quoted q value.toList).length := by
  induction values with
  | nil => exact Nat.le_refl 0
  | cons value values ih =>
    rw [List.flatMap_cons, List.length_append, List.length_append, List.length_cons]
    have hquoted : 0 < (quoted q value.toList).length := Nat.succ_pos _
    omega

section

variable (hq : q ≠ '\\') {between : String} (hrest : EndsList q between rest)

include hq hrest

/-- All literals are taken off, and nothing of what ends the list: any fuel will do that counts one
for each of them, as the length of the text does. -/
theorem takeLiterals_quoted (values : List String) :
    ∀ fuel, values.length ≤ fuel →
      takeLiterals q between fuel
        (values.flatMap (fun value => between.toList ++ quoted q value.toList) ++ rest) =
          (values, rest) := by
  induction values with
  | nil =>
    intro fuel _
    cases fuel with
    | zero => rfl
    | succ fuel =>
      unfold takeLiterals
      rw [List.flatMap_nil, List.nil_append, hrest.another]
  | cons value values ih =>
    intro fuel hfuel
    cases fuel with
    | zero => exact absurd hfuel (Nat.not_succ_le_zero _)
    | succ fuel =>
      unfold takeLiterals
      rw [List.flatMap_cons, List.append_assoc, List.append_assoc, after?_append, Option.bind_some,
        readQuoted_quoted hq]
      dsimp only
      rw [ih fuel (Nat.le_of_succ_le_succ hfuel), String.ofList_toList]

/-- **A list of literals splits into the values that it was made of.** -/
theorem splitLiterals_intercalate (values : List String) :
    splitLiterals q between
        (between.toList.intercalate (values.map fun value => quoted q value.toList) ++ rest) =
      (values, rest) := by
  unfold splitLiterals
  cases values with
  | nil =>
    rw [List.map_nil, List.intercalate_nil, List.nil_append, hrest.literal]
  | cons value values =>
    rw [List.map_cons, intercalate_cons_eq, List.append_assoc, readQuoted_quoted hq,
      List.flatMap_map]
    dsimp only
    rw [takeLiterals_quoted hq hrest, String.ofList_toList]
    rw [List.length_append]
    exact Nat.le_trans (length_le_flatMap_quoted q between values) (Nat.le_add_right _ _)

end

/-! ## What is written between quotes -/

/-- **Literals that delimit themselves**: what `literal` writes with the quote `q` can be told from
what follows it. -/
structure DelimitsItself (q : Char) (literal : String → String) : Prop where
  /-- A scan ends behind the literal and nowhere else, with exactly its value. -/
  scanned : ∀ (value : String) (rest found left : List Char),
    ScansLiteral q ((literal value).toList ++ rest) found left ↔ found = value.toList ∧ left = rest
  injective : Function.Injective literal
  /-- No value closes its own literal. -/
  unclosed : ∀ (value : String) (part found left : List Char),
    part <+: (literal value).toList → part ≠ (literal value).toList →
      ¬ ScansLiteral q part found left
  /-- A list with commas splits back into its values, -/
  listed : ∀ values : List String,
    splitLiterals q ", " (", ".intercalate (values.map literal)).toList = (values, [])
  /-- and so does any list, whatever follows that does not go on with it. -/
  followed : ∀ (between : String) (values : List String) (rest : List Char),
    EndsList q between rest →
      splitLiterals q between ((between.intercalate (values.map literal)).toList ++ rest) =
        (values, rest)

section

variable (hq : q ≠ '\\') {literal : String → String}
  (h : ∀ value, (literal value).toList = quoted q value.toList)

include hq h

theorem splitLiterals_literals {between : String} (hrest : EndsList q between rest)
    (values : List String) :
    splitLiterals q between ((between.intercalate (values.map literal)).toList ++ rest) =
      (values, rest) := by
  have hliterals : (values.map literal).map String.toList =
      values.map fun value => quoted q value.toList := by
    rw [List.map_map]
    exact List.map_congr_left fun value _ => h value
  rw [String.toList_intercalate, hliterals]
  exact splitLiterals_intercalate hq hrest values

/-- It is enough that the literal is the quoted value: one scan that finds the value and stops gives
all five facts, for `single_quoted` and `double_quoted` alike. -/
theorem DelimitsItself.of_quoted : DelimitsItself q literal where
  scanned value rest found left := by
    rw [h]
    exact scansLiteral_quoted_iff hq
  injective a b hab := by
    have hchars := congrArg String.toList hab
    rw [h, h] at hchars
    exact String.toList_injective (quoted_injective hq hchars)
  unclosed value part found left hpart hne := by
    rw [h] at hpart hne
    exact not_scansLiteral_of_short hq hpart hne found left
  listed values := by
    rw [← List.append_nil (String.toList _)]
    exact splitLiterals_literals hq h (endsList_nil q ", ") values
  followed between values rest hrest := splitLiterals_literals hq h hrest values

end

end Text

end CatalogEntities
