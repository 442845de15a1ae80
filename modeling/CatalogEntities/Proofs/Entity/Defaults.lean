import CatalogEntities.Proofs.Decimal
import CatalogEntities.Proofs.Entity.Fields
import CatalogEntities.Proofs.Text.Scan

/-!
# `Proofs/Entity/Defaults.lean` — what a default puts into an entity

A default that counts as a literal stands in the entity without quotes of its own, so it had better
be one. Numbers and truth values are. A text that begins and ends with a quote counts as a literal
too, and there the two quotes need not belong together: in `'a' || 'b'` the first is closed after
one letter (`DefaultValue.not_literal_concatenation`).

`DefaultValue.writesOneValue` says where the line runs. A default puts one value into the entity,
unless it stands between two quotes that do not enclose it (`Text.Encloses`).

What a literal is, is defined here by what a reader of the file accepts (`IsScriptLiteral`), and
what counts as one by what `classify` and `is_literal` look at (`CountsAsLiteral`). The theorem
compares the two. Everything that does not count as a literal is put into a string that a function
returns, and that is one value whatever the text is, so nothing can go wrong there.
-/

set_option autoImplicit false

namespace CatalogEntities

namespace Text

/-- **Quotes enclose a text**: every quote inside is taken by a backslash, and no backslash is left
to take the closing one. -/
inductive Encloses (q : Char) : List Char → Prop
  /-- Nothing stands between the quotes. -/
  | nil : Encloses q []
  /-- A backslash takes the next character, whatever that is. -/
  | taken (c : Char) {rest : List Char} (h : Encloses q rest) : Encloses q ('\\' :: c :: rest)
  /-- Any other character stands for itself, unless it is the quote. -/
  | plain {c : Char} {rest : List Char} (hb : c ≠ '\\') (hq : c ≠ q) (h : Encloses q rest) :
      Encloses q (c :: rest)

theorem Encloses.exists_scans {q : Char} {body : List Char} (h : Encloses q body) :
    ∃ value, Scans q (body ++ [q]) value [] := by
  induction h with
  | nil => exact ⟨[], .closed []⟩
  | taken c _ ih =>
    obtain ⟨value, hvalue⟩ := ih
    exact ⟨c :: value, .taken c hvalue⟩
  | @plain c _ hb hne _ ih =>
    obtain ⟨value, hvalue⟩ := ih
    exact ⟨c :: value, .plain hb hne hvalue⟩

/-- What a reader scans up to the last character is enclosed. The induction is on the scan, and the
last quote has to be kept out of the text at each step: it is not enclosed but closes. -/
theorem Scans.encloses {q : Char} {text value rest body : List Char} (h : Scans q text value rest)
    (htext : text = body ++ [q]) (hrest : rest = []) : Encloses q body := by
  induction h generalizing body with
  | closed rest =>
    rw [hrest] at htext
    cases body with
    | nil => exact .nil
    | cons c body => exact absurd (List.cons.inj htext).2 (by simp)
  | taken c hscan ih =>
    cases body with
    | nil => exact absurd (List.cons.inj htext).2 (by simp)
    | cons b body =>
      obtain ⟨hb, hbehind⟩ := List.cons.inj htext
      rw [← hb]
      cases body with
      | nil =>
        -- the backslash takes the last quote, and none is left
        rw [(List.cons.inj hbehind).2] at hscan
        cases hscan
      | cons d body => exact .taken d (ih (List.cons.inj hbehind).2 hrest)
  | plain hb hne _ ih =>
    cases body with
    | nil => exact absurd (List.cons.inj htext).1 hne
    | cons d body =>
      obtain ⟨hd, hbehind⟩ := List.cons.inj htext
      rw [← hd]
      exact .plain hb hne (ih hbehind hrest)

/-- **Quotes enclose a text if the reader stops at the last one.** -/
theorem encloses_iff {q : Char} (hq : q ≠ '\\') {body : List Char} :
    Encloses q body ↔ ∃ value, readQuoted q (q :: (body ++ [q])) = some (value, []) := by
  simp only [readQuoted, if_pos, readBody_eq_some_iff hq]
  constructor
  · exact Encloses.exists_scans
  · rintro ⟨value, hvalue⟩
    exact hvalue.encloses rfl rfl

/-- Trimming leaves a text alone that neither begins nor ends with white space. -/
theorem trim_eq_self {first last : Char} {body : List Char} (hfirst : isBlank first = false)
    (hlast : isBlank last = false) :
    trim (first :: (body ++ [last])) = first :: (body ++ [last]) := by
  have hstart : trimStart (first :: (body ++ [last])) = first :: (body ++ [last]) := by
    simp [trimStart, hfirst]
  rw [trim, hstart, trimEnd]
  simp [hlast]

end Text

open CatalogEntities.Text

/-! ## Literals and values -/

/-- **One literal**, with nothing around it: a truth value, a number, or a string in single quotes,
which are the kinds of values that defaults are sorted into. -/
inductive IsScriptLiteral : List Char → Prop
  | boolean {cs : List Char} (h : cs = "true".toList ∨ cs = "false".toList) : IsScriptLiteral cs
  | number {cs : List Char} (h : Decimal.IsNumeral cs) : IsScriptLiteral cs
  /-- A string that is closed by its last character and not before. -/
  | string {cs value : List Char} (h : readQuoted '\'' cs = some (value, [])) : IsScriptLiteral cs

/-- **One value of an option**: a literal with white space around it, or a function that returns one
string. Nothing may stand behind either, or an option would go on as something else. -/
inductive IsScriptValue : List Char → Prop
  | literal {cs : List Char} (h : IsScriptLiteral (trim cs)) : IsScriptValue cs
  | function {expression value : List Char} (h : readQuoted '"' expression = some (value, [])) :
      IsScriptValue ("() => ".toList ++ expression)

theorem Decimal.IsNumeral.ne_quote {cs : List Char} (h : Decimal.IsNumeral cs)
    (rest : List Char) : cs ≠ '\'' :: rest := by
  rintro rfl
  have hread := Decimal.isSome_read?_iff.2 h
  simp [Decimal.read?, Decimal.takeSign, Decimal.takeFraction] at hread

/-- A literal between quotes is a string and nothing else. -/
theorem isScriptLiteral_quoted_iff {body : List Char} :
    IsScriptLiteral ('\'' :: (body ++ ['\''])) ↔ Encloses '\'' body := by
  rw [encloses_iff (by decide)]
  constructor
  · intro h
    cases h with
    | boolean h =>
      rcases h with h | h
      · exact absurd (List.cons.inj h).1 (by decide)
      · exact absurd (List.cons.inj h).1 (by decide)
    | number h => exact absurd rfl (h.ne_quote _)
    | string h => exact ⟨_, h⟩
  · rintro ⟨value, hvalue⟩
    exact .string hvalue

namespace DefaultValue

/-- What the program asks of a quoted text: only its first and its last character, which must not be
one and the same. -/
theorem isQuotedText_iff {raw : List Char} :
    isQuotedText raw = true ↔ ∃ body, raw = '\'' :: (body ++ ['\'']) := by
  constructor
  · intro h
    simp only [isQuotedText, Bool.and_eq_true, decide_eq_true_eq] at h
    obtain ⟨⟨hlength, hhead⟩, hlast⟩ := h
    cases raw with
    | nil => exact absurd hhead (by simp)
    | cons first rest =>
      obtain rfl := Option.some.inj hhead
      have hrest : rest ≠ [] := by
        rintro rfl
        exact absurd hlength (by decide)
      rw [List.getLast?_cons_of_ne_nil hrest] at hlast
      obtain ⟨body, rfl⟩ := List.getLast?_eq_some_iff.1 hlast
      exact ⟨body, rfl⟩
  · rintro ⟨body, rfl⟩
    simp [isQuotedText, List.getLast?_cons]

/-- **A default breaks off**: it stands between two quotes that do not enclose what is between
them. So the literal ends before the default does, or does not end at all. -/
def BreaksOff (raw : String) : Prop :=
  ∃ body, raw.toList = '\'' :: (body ++ ['\'']) ∧ ¬ Encloses '\'' body

/-- The texts that count as literals. -/
def CountsAsLiteral (raw : String) : Prop :=
  (∃ body, raw.toList = '\'' :: (body ++ ['\''])) ∨
    (∃ d, Decimal.read? (trim raw.toList) = some d ∧ d.isFinite = true) ∨
      raw = "true" ∨ raw = "false"

theorem isNumber_iff {cs : List Char} :
    isNumber cs = true ↔ ∃ d, Decimal.read? (trim cs) = some d ∧ d.isFinite = true := by
  unfold isNumber
  cases Decimal.read? (trim cs) with
  | none => simp
  | some d => simp

/-- **What counts as a literal**: the first three questions that sorting asks, one after the other,
and none of the others. -/
theorem isLiteral_classify_iff {raw : String} :
    (classify raw).kind.isLiteral = true ↔ CountsAsLiteral raw := by
  unfold CountsAsLiteral
  rw [← isQuotedText_iff, ← isNumber_iff]
  unfold classify
  split
  · rename_i hquoted
    exact iff_of_true rfl (.inl hquoted)
  rename_i hquoted
  split
  · rename_i hnumber
    exact iff_of_true rfl (.inr (.inl hnumber))
  rename_i hnumber
  split
  · rename_i hword
    exact iff_of_true rfl (.inr (.inr hword))
  rename_i hword
  -- behind the third question no kind is that of a literal
  have hnone : ¬ (isQuotedText raw.toList = true ∨ isNumber raw.toList = true ∨
      raw = "true" ∨ raw = "false") := by
    rintro (h | h | h)
    · exact hquoted h
    · exact hnumber h
    · exact hword h
  split
  · exact iff_of_false Bool.false_ne_true hnone
  · exact iff_of_false Bool.false_ne_true hnone

/-- **What counts as a literal is one**, unless it breaks off. -/
theorem isScriptLiteral_iff {raw : String} (h : CountsAsLiteral raw) :
    IsScriptLiteral (trim raw.toList) ↔ ¬ BreaksOff raw := by
  by_cases hquoted : ∃ body, raw.toList = '\'' :: (body ++ ['\''])
  · obtain ⟨body, hraw⟩ := hquoted
    rw [hraw, trim_eq_self (by decide) (by decide), isScriptLiteral_quoted_iff]
    constructor
    · rintro henclosed ⟨other, hother, hbroken⟩
      rw [hraw] at hother
      exact hbroken (List.append_cancel_right (List.cons.inj hother).2 ▸ henclosed)
    · intro hwhole
      by_contra hbroken
      exact hwhole ⟨body, hraw, hbroken⟩
  · -- numbers and truth values are literals, and do not stand between quotes
    refine iff_of_true ?_ fun ⟨body, hraw, _⟩ => hquoted ⟨body, hraw⟩
    rcases h with h | ⟨d, hread, -⟩ | h
    · exact absurd h hquoted
    · apply IsScriptLiteral.number
      apply Decimal.isSome_read?_iff.1
      rw [hread]
      rfl
    · rcases h with rfl | rfl
      · exact .boolean (.inl (by decide))
      · exact .boolean (.inr (by decide))

theorem source_classify_of_literal {raw : String} (h : CountsAsLiteral raw) :
    (classify raw).source = raw := by
  rw [source, if_pos (isLiteral_classify_iff.2 h), raw_classify]

theorem source_classify_of_not_literal {raw : String} (h : ¬ CountsAsLiteral raw) :
    (classify raw).source = "() => " ++ doubleQuoted raw := by
  rw [source, if_neg fun hliteral => h (isLiteral_classify_iff.1 hliteral), raw_classify]

/-- What is no literal is the text of one string that a function returns. -/
theorem isScriptValue_doubleQuoted (raw : String) :
    IsScriptValue ("() => " ++ doubleQuoted raw).toList := by
  rw [String.toList_append, toList_doubleQuoted]
  apply IsScriptValue.function
  rw [← List.append_nil (quoted _ _)]
  exact readQuoted_quoted (by decide) raw.toList []

/-- A default that a column keeps is its text, with the kind of text that it is. -/
theorem eq_classify_of_ofPlainColumn {default : Option String} {d : DefaultValue}
    (h : ofPlainColumn default = some d) : d = classify d.raw := by
  obtain ⟨text, -, -, rfl⟩ := exists_of_ofPlainColumn h
  rw [raw_classify]

/-- **How a default is written.** The clauses lead from a field of an entity to its default, from
the default to its kind, and from the kind to what stands in the file. -/
structure WritesOneValue (raw : String) : Prop where
  /-- No entity carries the text in another way. -/
  carried : ∀ settings t column type nullable maxLength d,
    Field.value column type nullable maxLength (some d) ∈ (Entity.ofTable settings t).fields →
      d.raw = raw → d = classify raw
  /-- Literals are the texts between two quotes, finite decimals and truth values. -/
  literals : (classify raw).kind.isLiteral = true ↔ CountsAsLiteral raw
  /-- They are written as they stand. -/
  verbatim : (classify raw).kind.isLiteral = true → (classify raw).source = raw
  /-- A literal is one literal, unless it breaks off. -/
  one : (classify raw).kind.isLiteral = true →
    (IsScriptLiteral (trim raw.toList) ↔ ¬ BreaksOff raw)
  /-- A default puts one value into the entity, unless it breaks off. -/
  value : IsScriptValue (classify raw).source.toList ↔ ¬ BreaksOff raw

/-- **Every default is written as one value, but for those that break off.** -/
theorem writesOneValue (raw : String) : WritesOneValue raw where
  carried := by
    rintro settings t column type nullable maxLength d hmem rfl
    obtain ⟨c, -, hdefault⟩ := Entity.exists_of_value_mem hmem
    exact eq_classify_of_ofPlainColumn hdefault.symm
  literals := isLiteral_classify_iff
  verbatim h := source_classify_of_literal (isLiteral_classify_iff.1 h)
  one h := isScriptLiteral_iff (isLiteral_classify_iff.1 h)
  -- a literal is a value as it stands, anything else is the string that a function returns
  value := by
    by_cases hliteral : CountsAsLiteral raw
    · rw [← isScriptLiteral_iff hliteral, source_classify_of_literal hliteral]
      constructor
      · intro h
        generalize hcs : raw.toList = cs at h
        cases h with
        | literal h => exact h
        | function =>
          -- a literal does not begin with a parenthesis
          exact absurd hcs (not_parenthesis_of_isLiteral (isLiteral_classify_iff.2 hliteral) _)
      · exact .literal
    · rw [source_classify_of_not_literal hliteral]
      refine iff_of_true (isScriptValue_doubleQuoted raw) ?_
      rintro ⟨body, hraw, -⟩
      exact hliteral (.inl ⟨body, hraw⟩)

/-- Two strings that an operator joins count as a literal, and are not one. -/
theorem not_literal_concatenation :
    (classify "'a' || 'b'").kind.isLiteral = true ∧
      (classify "'a' || 'b'").source = "'a' || 'b'" ∧
        ¬ IsScriptLiteral (trim "'a' || 'b'".toList) := by
  refine ⟨by decide +kernel, by decide +kernel, ?_⟩
  have htrim : trim "'a' || 'b'".toList = '\'' :: ("a' || 'b".toList ++ ['\'']) := by
    decide +kernel
  rw [htrim, isScriptLiteral_quoted_iff, encloses_iff (by decide)]
  rintro ⟨value, hvalue⟩
  have hread : readQuoted '\'' ('\'' :: ("a' || 'b".toList ++ ['\''])) =
      some (['a'], " || 'b'".toList) := by
    decide +kernel
  rw [hread] at hvalue
  exact absurd hvalue (by simp)

end DefaultValue

end CatalogEntities
