import CatalogEntities.Proofs.DotEnv.Lines
import CatalogEntities.Proofs.Text.Blank

/-!
# `Proofs/DotEnv/Assigning.lean` — lines that assign to a variable

To which variable a line assigns stands in front of its equals sign (`IsFront`), and nothing behind
that matters: whatever the value is, as long as the line can be read, it is an assignment to that
variable (`IsFront.exists_readLine`). It does not depend on the variables there are either, which
only change the value (`exists_readLine_of_ok`).

A line of the file with such a front is put together by itself if nothing is open at its end.

So a value is never parsed here. All that has to be known of it is that it leaves nothing open, and
for values in plain text that can be seen from their characters.
-/

set_option autoImplicit false

namespace CatalogEntities.DotEnv

open CatalogEntities.Text

/-! ## Names -/

/-- A name of a variable. -/
def IsName (cs : List Char) : Prop :=
  cs.head?.any startsName = true ∧ ∀ c ∈ cs, continuesName c = true

-- the characters of the list are tried, not all characters
instance (cs : List Char) : Decidable (IsName cs) :=
  @instDecidableAnd _ _ _ (List.decidableBAll (fun c => continuesName c = true) cs)

/-- Where the characters of names are among all characters: between the point and the last small
letter. No blank is there. -/
theorem bounds_of_continuesName {c : Char} (h : continuesName c = true) :
    46 ≤ c.toNat ∧ c.toNat ≤ 122 := by
  simp only [continuesName, Bool.or_eq_true, decide_eq_true_eq] at h
  have hcode : c.toNat = c.val.toNat := rfl
  rcases h with (hletter | rfl) | rfl
  · have hcases : ((c.isUpper || c.isLower) || c.isDigit) = true := hletter
    rw [Bool.or_eq_true, Bool.or_eq_true] at hcases
    rcases hcases with (h | h) | h
    · have hbounds : 65 ≤ c.val.toNat ∧ c.val.toNat ≤ 90 := of_decide_eq_true h
      omega
    · obtain ⟨hfirst, hlast⟩ := Bool.and_eq_true_iff.1 h
      have hlow : 97 ≤ c.val.toNat := of_decide_eq_true hfirst
      have hhigh : c.val.toNat ≤ 122 := of_decide_eq_true hlast
      omega
    · obtain ⟨hfirst, hlast⟩ := Bool.and_eq_true_iff.1 h
      have hlow : 48 ≤ c.val.toNat := of_decide_eq_true hfirst
      have hhigh : c.val.toNat ≤ 57 := of_decide_eq_true hlast
      omega
  · decide
  · decide

theorem not_blank_of_continuesName {c : Char} (h : continuesName c = true) : isBlank c = false := by
  have hall : ∀ n < 123, 46 ≤ n → whiteSpace.has n = false := by decide
  obtain ⟨hlow, hhigh⟩ := bounds_of_continuesName h
  exact hall c.toNat (by omega) hlow

theorem not_continuesName_of_blank {c : Char} (h : isBlank c = true) : continuesName c = false := by
  by_contra hname
  rw [Bool.not_eq_false] at hname
  rw [not_blank_of_continuesName hname] at h
  exact absurd h (by simp)

theorem isName_exportWord : IsName exportWord := by decide

/-- A name does not begin with an equals sign or with a blank. -/
theorem IsName.exists_cons {name : List Char} (h : IsName name) :
    ∃ c rest, name = c :: rest ∧ startsName c = true ∧ continuesName c = true := by
  obtain ⟨hstart, hname⟩ := h
  cases name with
  | nil => exact absurd hstart (by simp)
  | cons c rest => exact ⟨c, rest, rfl, by simpa using hstart, hname c List.mem_cons_self⟩

/-- **A name is taken up to the blanks behind it.** -/
theorem takeName_append {name blanks rest : List Char} (hname : IsName name)
    (hblanks : AllBlank blanks) (hrest : ∀ c ∈ rest.head?, isBlank c = false)
    (hstop : ∀ c ∈ (blanks ++ rest).head?, continuesName c = false) :
    takeName (name ++ (blanks ++ rest)) = some (name, rest) := by
  obtain ⟨c, cs, rfl, hstart, -⟩ := hname.exists_cons
  -- the name ends where its characters do, at the first blank or at what follows
  have htake : (c :: cs ++ (blanks ++ rest)).takeWhile continuesName = c :: cs := by
    rw [List.takeWhile_append_of_pos hname.2]
    cases hend : blanks ++ rest with
    | nil => exact List.append_nil _
    | cons d ds =>
      rw [List.takeWhile_cons_of_neg (by simp [hstop d (by rw [hend]; rfl)]), List.append_nil]
  have hdrop : (c :: cs ++ (blanks ++ rest)).dropWhile continuesName = blanks ++ rest := by
    rw [List.dropWhile_append_of_pos hname.2]
    cases hend : blanks ++ rest with
    | nil => rfl
    | cons d ds => exact List.dropWhile_cons_of_neg (by simp [hstop d (by rw [hend]; rfl)])
  rw [takeName, htake, hdrop, trimStart_append hblanks hrest, if_pos (by simpa using hstart)]

/-- A name is taken up to the equals sign behind it, over the blanks in between. -/
theorem takeName_append_equals {word blanks : List Char} (hword : IsName word)
    (hblanks : AllBlank blanks) (rest : List Char) :
    takeName (word ++ (blanks ++ '=' :: rest)) = some (word, '=' :: rest) := by
  refine takeName_append hword hblanks (fun c hc => ?_) fun c hc => ?_
  · obtain rfl := Option.some.inj hc
    decide
  · cases blanks with
    | nil =>
      obtain rfl := Option.some.inj hc
      decide
    | cons b blanks =>
      obtain rfl := Option.some.inj hc
      exact not_continuesName_of_blank (hblanks b List.mem_cons_self)

/-! ## Fronts -/

/-- A name with its equals sign, perhaps behind the word that may stand before an assignment. -/
inductive IsTarget (name : String) : List Char → Prop
  | plain {blanks : List Char} (hname : IsName name.toList) (hblanks : AllBlank blanks) :
      IsTarget name (name.toList ++ (blanks ++ ['=']))
  | exported {between blanks : List Char} (hname : IsName name.toList)
      (hbetween : AllBlank between) (hsome : between ≠ []) (hblanks : AllBlank blanks) :
      IsTarget name (exportWord ++ (between ++ (name.toList ++ (blanks ++ ['=']))))

/-- **What stands in front of the value** in a line that assigns to a variable: blanks, the name,
and everything up to the equals sign. -/
inductive IsFront (name : String) : List Char → Prop
  | behind {blanks target : List Char} (hblanks : AllBlank blanks)
      (htarget : IsTarget name target) : IsFront name (blanks ++ target)

namespace IsTarget

variable {name : String} {target : List Char}

/-- **The variable is known whatever follows.** -/
theorem takeTarget_append (h : IsTarget name target) (rest : List Char) :
    takeTarget (target ++ rest) = .ok (name.toList, rest) := by
  cases h with
  | @plain blanks hname hblanks =>
    have hparts : name.toList ++ (blanks ++ ['=']) ++ rest =
        name.toList ++ (blanks ++ '=' :: rest) := by simp
    rw [hparts, takeTarget, takeName_append_equals hname hblanks]
    rfl
  | @exported between blanks hname hbetween hsome hblanks =>
    have hparts : exportWord ++ (between ++ (name.toList ++ (blanks ++ ['=']))) ++ rest =
        exportWord ++ (between ++ (name.toList ++ (blanks ++ '=' :: rest))) := by simp
    obtain ⟨c, cs, hcons, -, hc⟩ := hname.exists_cons
    have hexport : takeName (exportWord ++ (between ++ (name.toList ++ (blanks ++ '=' :: rest)))) =
        some (exportWord, name.toList ++ (blanks ++ '=' :: rest)) := by
      refine takeName_append isName_exportWord hbetween (fun d hd => ?_) fun d hd => ?_
      · rw [hcons] at hd
        obtain rfl := Option.some.inj hd
        exact not_blank_of_continuesName hc
      · cases between with
        | nil => exact absurd rfl hsome
        | cons b between =>
          obtain rfl := Option.some.inj hd
          exact not_continuesName_of_blank (hbetween b List.mem_cons_self)
    -- the word is no name itself, as another name follows it and not an equals sign
    have hequals : ∀ tail, name.toList ++ (blanks ++ '=' :: rest) ≠ '=' :: tail := by
      intro tail htail
      rw [hcons] at htail
      obtain rfl := (List.cons.inj htail).1
      exact absurd hc (by decide)
    rw [hparts, takeTarget, hexport]
    split
    · rename_i hnone
      exact absurd hnone (by simp)
    · rename_i hsame
      exact absurd (Prod.mk.inj (Option.some.inj hsame)).2 (hequals _)
    · rename_i hsame
      obtain ⟨rfl, rfl⟩ := Prod.mk.inj (Option.some.inj hsame)
      rw [if_neg (not_not.2 rfl), takeName_append_equals hname hblanks]
      rfl

/-- A target begins with a name. -/
theorem exists_cons (h : IsTarget name target) :
    ∃ c rest, target = c :: rest ∧ continuesName c = true := by
  cases h with
  | plain hname hblanks =>
    obtain ⟨c, rest, hcons, -, hc⟩ := hname.exists_cons
    rw [hcons]
    exact ⟨c, _, rfl, hc⟩
  | exported hname hbetween hsome hblanks => exact ⟨'e', _, rfl, by decide⟩

/-- A target ends with its equals sign. -/
theorem exists_append (h : IsTarget name target) : ∃ front, target = front ++ ['='] := by
  cases h with
  | @plain blanks hname hblanks => exact ⟨name.toList ++ blanks, by simp⟩
  | @exported between blanks hname hbetween hsome hblanks =>
    exact ⟨exportWord ++ (between ++ (name.toList ++ blanks)), by simp⟩

/-- No comment begins in a target. -/
theorem not_mem (h : IsTarget name target) : '#' ∉ target := by
  have hblank : ∀ blanks, AllBlank blanks → '#' ∉ blanks := fun blanks hblanks hmem =>
    absurd (hblanks '#' hmem) (by decide)
  have hequals : '#' ∉ ['='] := by decide
  have hnames : ∀ cs, IsName cs → '#' ∉ cs := fun cs hcs hmem =>
    absurd (hcs.2 '#' hmem) (by decide)
  cases h with
  | plain hname hblanks =>
    simp only [List.mem_append, not_or]
    exact ⟨hnames _ hname, hblank _ hblanks, hequals⟩
  | exported hname hbetween hsome hblanks =>
    simp only [List.mem_append, not_or]
    exact ⟨hnames _ isName_exportWord, hblank _ hbetween, hnames _ hname, hblank _ hblanks, hequals⟩

end IsTarget

namespace IsFront

variable {name : String} {front : List Char}

theorem exists_append (h : IsFront name front) : ∃ start, front = start ++ ['='] := by
  obtain ⟨hblanks, htarget⟩ := h
  obtain ⟨start, rfl⟩ := htarget.exists_append
  exact ⟨_, (List.append_assoc _ _ _).symm⟩

theorem not_mem (h : IsFront name front) : '#' ∉ front := by
  obtain ⟨hblanks, htarget⟩ := h
  rw [List.mem_append, not_or]
  exact ⟨fun hmem => absurd (hblanks '#' hmem) (by decide), htarget.not_mem⟩

end IsFront

/-! ## One line -/

theorem trimEnd_append_cons {c : Char} (hc : isBlank c = false) (front rest : List Char) :
    trimEnd (front ++ c :: rest) = front ++ c :: trimEnd rest := by
  have hreverse : (front ++ c :: rest).reverse = rest.reverse ++ c :: front.reverse := by simp
  rw [trimEnd, trimEnd, hreverse, List.dropWhile_append]
  split
  · rename_i hempty
    rw [List.isEmpty_iff.1 hempty, List.dropWhile_cons_of_neg (by simp [hc])]
    simp
  · simp

/-- What the next character leads to does not depend on the variables, apart from what it gains for
the value. -/
theorem readChar_fst (lookup other : String → Option String) (c : Char) (reading : Reading) :
    (readChar lookup c reading).map Prod.fst = (readChar other c reading).map Prod.fst := by
  cases reading with
  | text q => rfl
  | verbatim => rfl
  | escaped q => rfl
  | reference q name =>
    simp only [readChar]
    split
    · rfl
    · split
      · rfl
      · split <;> rfl
  | braced q name =>
    simp only [readChar]
    split <;> rfl
  | finished => rfl

/-- A value that can be read with some variables can be read with any. -/
theorem exists_readRest_of_ok {lookup : String → Option String}
    (other : String → Option String) {index : Nat} {reading : Reading} {cs value : List Char}
    (h : readRest lookup index reading cs = .ok value) :
    ∃ value', readRest other index reading cs = .ok value' := by
  -- on the characters; the two readings are in the same state throughout and gain different text
  induction cs generalizing index reading value with
  | nil =>
    rw [readRest] at h ⊢
    split at h
    · exact absurd h (by simp)
    · rename_i hclosed
      rw [if_neg hclosed]
      exact ⟨_, rfl⟩
  | cons c rest ih =>
    rw [readRest] at h ⊢
    split at h
    · rename_i hcomment
      rw [if_pos hcomment]
      exact ⟨_, rfl⟩
    · rename_i hcomment
      rw [if_neg hcomment]
      have hfst := readChar_fst lookup other c reading
      cases hread : readChar lookup c reading with
      | none =>
        rw [hread] at h
        exact absurd h (by simp)
      | some step =>
        obtain ⟨next, gained⟩ := step
        rw [hread] at hfst
        obtain ⟨⟨next', gained'⟩, hread', rfl⟩ := Option.map_eq_some_iff.1 hfst.symm
        simp only [hread] at h
        simp only [hread']
        cases hrest : readRest lookup (index + 1) next' rest with
        | error fault =>
          rw [hrest] at h
          exact absurd h (by simp [Except.map])
        | ok tail =>
          obtain ⟨tail', htail'⟩ := ih hrest
          exact ⟨gained' ++ tail', by rw [htail']; rfl⟩

/-- **Which variable a line assigns to does not depend on the variables there are**, nor whether it
can be read. -/
theorem exists_readLine_of_ok {lookup : String → Option String}
    (other : String → Option String) {line : List Char} {a : Option Assignment}
    (h : readLine lookup line = .ok a) :
    ∃ b, readLine other line = .ok b ∧ b.map Assignment.name = a.map Assignment.name := by
  -- the tests on the way to the value do not look at variables
  simp only [readLine] at h ⊢
  split at h
  · rename_i hover
    obtain rfl := Except.ok.inj h
    rw [if_pos hover]
    exact ⟨_, rfl, rfl⟩
  · rename_i hover
    rw [if_neg hover]
    split at h
    · exact absurd h (by simp)
    · split at h
      · rename_i hempty
        obtain rfl := Except.ok.inj h
        rw [if_pos hempty]
        exact ⟨_, rfl, rfl⟩
      · rename_i hempty
        rw [if_neg hempty]
        split at h
        · exact absurd h (by simp)
        · rename_i value hvalue
          obtain rfl := Except.ok.inj h
          obtain ⟨value', hvalue'⟩ := exists_readRest_of_ok other hvalue
          rw [readValue, hvalue']
          exact ⟨_, rfl, rfl⟩

/-- **A line with the front of a variable assigns to it**, if it can be read. -/
theorem IsFront.exists_readLine {name : String} {front : List Char} (hfront : IsFront name front)
    {lookup : String → Option String} {rest : List Char} {a : Option Assignment}
    (h : readLine lookup (front ++ rest) = .ok a) : ∃ value, a = some ⟨name, value⟩ := by
  cases hfront with | @behind blanks target hblanks htarget
  obtain ⟨start, hstart⟩ := htarget.exists_append
  obtain ⟨c, cs, hcons, hc⟩ := htarget.exists_cons
  -- the equals sign is no blank, so trimming at the end stops behind it
  have hend : trimEnd (blanks ++ target ++ rest) = blanks ++ (target ++ trimEnd rest) := by
    have hparts : blanks ++ target ++ rest = (blanks ++ start) ++ '=' :: rest := by simp [hstart]
    rw [hparts, trimEnd_append_cons (by decide), hstart]
    simp
  have hbody : trimStart (blanks ++ (target ++ trimEnd rest)) = target ++ trimEnd rest := by
    refine trimStart_append hblanks fun d hd => ?_
    rw [hcons] at hd
    obtain rfl := Option.some.inj hd
    exact not_blank_of_continuesName hc
  have hover : ¬ isOver (target ++ trimEnd rest) = true := by
    rw [hcons]
    intro hcomment
    have hsharp : c = '#' := by simpa [isOver] using hcomment
    rw [hsharp] at hc
    exact absurd hc (by decide)
  simp only [readLine, hend, hbody, if_neg hover, htarget.takeTarget_append] at h
  split at h
  · exact ⟨_, by rw [← Except.ok.inj h, String.ofList_toList]⟩
  · split at h
    · exact absurd h (by simp)
    · exact ⟨_, by rw [← Except.ok.inj h, String.ofList_toList]⟩

/-! ## Lines of the file -/

/-- **A value that takes one line**: nothing is open at the end of the line. -/
structure TakesOneLine (front value : List Char) : Prop where
  noLineFeed : '\n' ∉ front ++ value
  closed : ∀ s, LineState.complete.atEnd (front ++ value ++ ['\n']) = .state s → s = .complete

/-- **Plain text takes one line**: none of its characters opens anything. -/
theorem takesOneLine_of_plain {front value : List Char} (hlineFeed : '\n' ∉ front ++ value)
    (hplain : ((front ++ value).all fun c => LineState.opened c = .complete) = true) :
    TakesOneLine front value := by
  -- on the line: the state alternates between two in which nothing is open
  have hend : ∀ (line : List Char), (∀ c ∈ line, LineState.opened c = .complete) →
      ∀ s, s = LineState.complete ∨ s = .blank →
        ∀ t, s.atEnd (line ++ ['\n']) = .state t → t = .complete := by
    intro line hline
    induction line with
    | nil =>
      rintro s (rfl | rfl) t ht <;> exact (LineEnd.state.inj ht).symm
    | cons c rest ih =>
      have hopened := hline c List.mem_cons_self
      intro s hs t ht
      have hnext : s.next c = .complete ∨ s.next c = .blank := by
        rcases hs with rfl | rfl
        · rw [LineState.next, hopened]
          split
          · exact Or.inr rfl
          · exact Or.inl rfl
        · exact Or.inl hopened
      rw [List.cons_append, LineState.atEnd] at ht
      split at ht
      · exact absurd ht (by simp)
      · split at ht
        · rename_i hrest
          obtain rfl := LineEnd.state.inj ht
          exact ih (fun d hd => hline d (List.mem_cons_of_mem c hd)) _ hnext _ hrest
        · exact absurd ht (by simp)
  have hall := fun c hc => of_decide_eq_true (List.all_eq_true.1 hplain c hc)
  exact ⟨hlineFeed, hend _ hall _ (Or.inl rfl)⟩

/-- A comment begins with its sign. -/
theorem eq_append_of_atEnd {s : LineState} {line before : List Char}
    (h : s.atEnd line = .comment before) : ∃ rest, line = before ++ '#' :: rest := by
  induction line generalizing s before with
  | nil => exact absurd h (by simp [LineState.atEnd])
  | cons c line ih =>
    rw [LineState.atEnd] at h
    split at h
    · rename_i hcomment
      obtain rfl := LineEnd.comment.inj h
      exact ⟨line, by rw [hcomment.2]; rfl⟩
    · split at h
      · exact absurd h (by simp)
      · rename_i front hfront
        obtain rfl := LineEnd.comment.inj h
        obtain ⟨rest, hrest⟩ := ih hfront
        exact ⟨rest, by rw [hrest]; rfl⟩

/-- A line end is at most two characters, and no equals sign. -/
theorem exists_lineEnd (cs : List Char) :
    ∃ ending, cs = withoutLineEnd cs ++ ending ∧ '=' ∉ ending := by
  rw [withoutLineEnd]
  split
  · rename_i rest hreverse
    refine ⟨['\r', '\n'], ?_, by decide⟩
    rw [← List.reverse_reverse cs, hreverse]
    simp
  · rename_i rest _ hreverse
    refine ⟨['\n'], ?_, by decide⟩
    rw [← List.reverse_reverse cs, hreverse]
    simp
  · exact ⟨[], (List.append_nil cs).symm, List.not_mem_nil⟩

/-- Of two ways to divide a text, the front that does not reach into the other end is shorter. -/
theorem exists_append_of_append_eq {front rest before after : List Char}
    (h : front ++ rest = before ++ after)
    (hshort : ∀ between, between ≠ [] → front = before ++ between → ¬ between <+: after) :
    ∃ value, before = front ++ value := by
  rcases List.append_eq_append_iff.1 h with ⟨value, hbefore, -⟩ | ⟨between, hfront, hafter⟩
  · exact ⟨value, hbefore⟩
  · by_cases hnil : between = []
    · exact ⟨[], by rw [hfront, hnil, List.append_nil, List.append_nil]⟩
    · exact absurd ⟨rest, hafter.symm⟩ (hshort between hnil hfront)

namespace IsFront

variable {name : String} {front : List Char}

/-- A line with a front is no comment. -/
theorem not_comment (hfront : IsFront name front) (rest : List Char) :
    ¬ (trimStart ([] ++ (front ++ rest))).head? = some '#' := by
  cases hfront with | @behind blanks target hblanks htarget
  obtain ⟨c, cs, hcons, hc⟩ := htarget.exists_cons
  rw [List.nil_append, List.append_assoc, hcons, trimStart_append hblanks]
  · rintro ⟨⟩
    exact absurd hc (by decide)
  · intro d hd
    obtain rfl := Option.some.inj hd
    exact not_blank_of_continuesName hc

/-- **A line with the front of a variable is put together by itself**, and keeps its front. -/
theorem exists_joinLines (hfront : IsFront name front) {rest : List Char}
    (hclosed : ∀ s, LineState.complete.atEnd (front ++ rest) = .state s → s = .complete)
    (lines : List (Option (List Char))) :
    ∃ value, joinLines .complete [] (some (front ++ rest) :: lines) =
      .ok (front ++ value) :: joinLines .complete [] lines := by
  -- the line is cut at a comment, or at its end; both cuts are behind the front
  rw [joinLines, if_neg (hfront.not_comment rest)]
  split
  · rename_i before hend
    obtain ⟨after, hafter⟩ := eq_append_of_atEnd hend
    obtain ⟨value, rfl⟩ := exists_append_of_append_eq hafter fun between hsome hsplit hbegins => by
      -- the sign of a comment would be in the front
      cases between with
      | nil => exact hsome rfl
      | cons c between =>
        obtain rfl := (List.cons_prefix_cons.1 hbegins).1
        exact hfront.not_mem (hsplit ▸ List.mem_append_right _ List.mem_cons_self)
    exact ⟨value, rfl⟩
  · obtain ⟨ending, hending, hequals⟩ := exists_lineEnd (front ++ rest)
    obtain ⟨value, hvalue⟩ := exists_append_of_append_eq hending
      fun between hsome hsplit hbegins => by
        -- the equals sign would be in the line end
        obtain ⟨start, hstart⟩ := hfront.exists_append
        have hlast := congrArg List.getLast? hsplit
        rw [List.getLast?_append_of_ne_nil _ hsome] at hlast
        rw [hstart, List.getLast?_concat] at hlast
        exact hequals (hbegins.subset (List.mem_of_getLast? hlast.symm))
    exact ⟨value, by rw [List.nil_append, hvalue]⟩
  · rename_i s hopen hend
    exact absurd (hclosed s hend) hopen

/-- Nothing is open at the end of the last line of a well-formed text. -/
theorem closed_of_last (hfront : IsFront name front) {rest : List Char}
    {lines : List (List Char)}
    (h : joinLines .complete [] [some (front ++ rest)] = lines.map .ok) :
    ∀ s, LineState.complete.atEnd (front ++ rest) = .state s → s = .complete := by
  intro s hs
  by_contra hopen
  rw [joinLines, if_neg (hfront.not_comment rest), hs] at h
  have hfault : joinLines s ([] ++ (front ++ rest)) [] = lines.map .ok := by
    cases s with
    | complete => exact absurd rfl hopen
    | blank | escaped | strong | weak => exact h
  rw [joinLines, if_neg hopen] at hfault
  cases lines with
  | nil => exact absurd hfault (by simp)
  | cons line lines => exact absurd (List.cons.inj hfault).1 (by simp)

end IsFront

end CatalogEntities.DotEnv
