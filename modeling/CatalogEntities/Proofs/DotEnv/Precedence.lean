import CatalogEntities.Proofs.Dictionary
import CatalogEntities.Proofs.DotEnv.Assigning
import CatalogEntities.Settings.Environment

/-!
# `Proofs/DotEnv/Precedence.lean` — the surroundings come before the file

Carrying out a file changes the variables line by line, and later lines refer to what they find. In
the end, and after every line, the variables are those of the surroundings, and behind them the
assignments so far, the first to each variable (`foldlM_readable`). This is the invariant; what a
line adds to it is one assignment (`overlaid_append`).

So a line that assigns to a variable of the surroundings does nothing at all, and what it assigns
can be replaced (`Reworded`) without a trace: neither the variables nor what later lines refer to
are different (`foldlM_reworded`).

The invariant is about variables as a whole and not about one of them. A reference asks for a name
that only the line knows, so a statement about a single variable would not be kept by lines that
refer to others.
-/

set_option autoImplicit false

namespace CatalogEntities.DotEnv

/-! ## Variables with assignments behind them -/

/-- What is first assigned to a variable. -/
def firstValue (assignments : List Assignment) (name : String) : Option String :=
  (assignments.find? (·.name = name)).map (·.value)

/-- **Variables with assignments behind them**: a variable that is there keeps its value, and any
other has the first that is assigned to it. -/
def overlaid (vars : Variables) (assignments : List Assignment) : Variables :=
  .ofList (assignments.reverse.map (fun a => (a.name, a.value)) ++ vars.entries)

theorem lookup_map_assignment (assignments : List Assignment) (name : String) :
    (assignments.map fun a => (a.name, a.value)).lookup name = firstValue assignments name := by
  induction assignments with
  | nil => rfl
  | cons a rest ih =>
    rw [List.map_cons, List.lookup_cons]
    by_cases h : name = a.name
    · simp [firstValue, h]
    · rw [beq_eq_false_iff_ne.2 h, ih, firstValue, firstValue,
        List.find?_cons_of_neg (by simpa using Ne.symm h)]

/-- What is found in variables with assignments behind them. -/
theorem find?_overlaid (vars : Variables) (assignments : List Assignment) (name : String) :
    (overlaid vars assignments).find? name =
      (vars.find? name).or (firstValue assignments name) := by
  rw [overlaid, Dictionary.find?_ofList, List.reverse_append, List.lookup_append,
    Dictionary.lookup_reverse vars.ascending, ← List.map_reverse, List.reverse_reverse,
    lookup_map_assignment]
  rfl

theorem overlaid_nil (vars : Variables) : overlaid vars [] = vars :=
  Dictionary.eq_of_find?_eq fun name => by rw [find?_overlaid]; simp [firstValue]

theorem firstValue_append (assignments : List Assignment) (a : Assignment) (name : String) :
    firstValue (assignments ++ [a]) name =
      (firstValue assignments name).or (if name = a.name then some a.value else none) := by
  rw [firstValue, firstValue, List.find?_append]
  cases assignments.find? (·.name = name) with
  | some found => rfl
  | none =>
    by_cases h : name = a.name
    · simp [h]
    · simp [h, Ne.symm h]

/-! ## Assigning -/

theorem find?_assign (vars : Variables) (a : Assignment) (name : String) :
    (assign vars a).find? name =
      (vars.find? name).or (if name = a.name then some a.value else none) := by
  -- the variable of the assignment changes only if it was not set, and no other changes
  rw [assign]
  by_cases hname : name = a.name
  · subst hname
    split
    · rename_i hset
      obtain ⟨value, hvalue⟩ := Option.isSome_iff_exists.1 hset
      rw [hvalue, Option.some_or]
    · rename_i hset
      rw [Dictionary.contains, Option.not_isSome_iff_eq_none] at hset
      rw [Dictionary.find?_insert, hset]
      simp
  · rw [if_neg hname, Option.or_none]
    split
    · rfl
    · rw [Dictionary.find?_insert, if_neg hname]

theorem assign_of_contains {vars : Variables} {a : Assignment} (h : vars.contains a.name = true) :
    assign vars a = vars := by
  rw [assign, if_pos h]

theorem contains_assign {vars : Variables} {name : String} (h : vars.contains name = true)
    (a : Assignment) : (assign vars a).contains name = true := by
  obtain ⟨value, hvalue⟩ := Option.isSome_iff_exists.1 h
  rw [Dictionary.contains, find?_assign, hvalue]
  rfl

/-- A further assignment is one more behind the others. -/
theorem overlaid_append (vars : Variables) (assignments : List Assignment) (a : Assignment) :
    overlaid vars (assignments ++ [a]) = assign (overlaid vars assignments) a := by
  refine Dictionary.eq_of_find?_eq fun name => ?_
  rw [find?_assign, find?_overlaid, find?_overlaid, firstValue_append, Option.or_assoc]

/-! ## Carrying out lines -/

/-- **The assignments that lines make**, behind earlier ones: each is read with the variables of the
surroundings, and behind them those of the lines before it. -/
def assignments (vars : Variables) (earlier : List Assignment) :
    List (List Char) → List Assignment
  | [] => []
  | line :: rest =>
      match readLine (valueOf? (overlaid vars earlier)) line with
      | .ok (some a) => a :: assignments vars (earlier ++ [a]) rest
      | _ => assignments vars earlier rest

theorem runLine_ok (vars : Variables) (line : List Char) :
    runLine vars (.ok line) =
      (readLine (valueOf? vars) line).map fun a => (a.map (assign vars)).getD vars := by
  show (readLine (valueOf? vars) line >>= fun a => pure ((a.map (assign vars)).getD vars)) = _
  cases readLine (valueOf? vars) line <;> rfl

/-- What a line does that can be carried out. -/
theorem runLine_eq_ok_iff {vars after : Variables} {line : Except Fault (List Char)} :
    runLine vars line = .ok after ↔ ∃ cs, line = .ok cs ∧
      ∃ a, readLine (valueOf? vars) cs = .ok a ∧ (a.map (assign vars)).getD vars = after := by
  show (line >>= fun cs => readLine (valueOf? vars) cs >>= fun a =>
    pure ((a.map (assign vars)).getD vars)) = .ok after ↔ _
  simp only [bind_eq_ok_iff, pure, Except.pure, Except.ok.injEq]

/-- **After every line the variables are those of the surroundings with the assignments so far
behind them.** -/
theorem foldlM_readable {vars : Variables} {earlier : List Assignment} {lines : List (List Char)}
    (h : ∀ line ∈ lines, IsReadable line) :
    (lines.map Except.ok).foldlM runLine (overlaid vars earlier) =
      .ok (overlaid vars (earlier ++ assignments vars earlier lines)) := by
  -- on the lines; what they have assigned moves into `earlier`
  induction lines generalizing earlier with
  | nil =>
    rw [assignments, List.append_nil]
    rfl
  | cons line rest ih =>
    obtain ⟨b, hb⟩ := h line List.mem_cons_self
    obtain ⟨a, ha, -⟩ := exists_readLine_of_ok (valueOf? (overlaid vars earlier)) hb
    have hrest := fun line hline => h line (List.mem_cons_of_mem _ hline)
    rw [List.map_cons, List.foldlM_cons, runLine_ok, ha, assignments, ha]
    cases a with
    | none => exact ih hrest
    | some a =>
      show (rest.map Except.ok).foldlM runLine (assign (overlaid vars earlier) a) = _
      rw [← overlaid_append, ih hrest, List.append_assoc]
      rfl

/-- **A well-formed text puts its assignments behind the variables.** -/
theorem loadText_eq_overlaid {text : String} {lines : List (List Char)}
    (h : HasLines (body text) lines) (vars : Variables) :
    loadText vars text = .ok (overlaid vars (assignments vars [] lines)) := by
  have hlines : joinLines .complete [] ((cutLines '\n' (body text)).map some) = lines.map .ok :=
    h.joined
  have hfold : (lines.map Except.ok).foldlM runLine (overlaid vars []) =
      .ok (overlaid vars ([] ++ assignments vars [] lines)) := foldlM_readable h.readable
  rw [overlaid_nil, List.nil_append] at hfold
  rw [loadText_eq, runLines, hlines, hfold]

/-- Lines that are carried out have been read. -/
theorem exists_readable_of_foldlM {vars after : Variables} {lines : List (Except Fault (List Char))}
    (h : lines.foldlM runLine vars = .ok after) :
    ∃ read : List (List Char), lines = read.map .ok ∧ ∀ line ∈ read, IsReadable line := by
  induction lines generalizing vars with
  | nil => exact ⟨[], rfl, fun line hline => absurd hline List.not_mem_nil⟩
  | cons line rest ih =>
    rw [List.foldlM_cons, bind_eq_ok_iff] at h
    obtain ⟨next, hline, hrest⟩ := h
    obtain ⟨cs, rfl, a, ha, -⟩ := runLine_eq_ok_iff.1 hline
    obtain ⟨read, rfl, hreadable⟩ := ih hrest
    -- a line is readable with any variables or with none
    obtain ⟨b, hb, -⟩ := exists_readLine_of_ok (fun _ => none) ha
    exact ⟨cs :: read, rfl, List.forall_mem_cons.2 ⟨⟨b, hb⟩, hreadable⟩⟩

/-- **A text is well-formed if it can be carried out**, whatever variables there are. -/
theorem exists_hasLines_iff {vars : Variables} {text : String} :
    (∃ lines, HasLines (body text) lines) ↔ ∃ after, loadText vars text = .ok after := by
  constructor
  · rintro ⟨lines, h⟩
    exact ⟨_, loadText_eq_overlaid h vars⟩
  · rintro ⟨after, h⟩
    rw [loadText_eq] at h
    obtain ⟨lines, hjoined, hreadable⟩ := exists_readable_of_foldlM h
    exact ⟨lines, hjoined, hreadable⟩

/-! ## References -/

theorem not_mem_of_takeName {cs name rest : List Char} (h : takeName cs = some (name, rest)) :
    '=' ∉ name := by
  rw [takeName] at h
  split at h
  · obtain ⟨rfl, -⟩ := Prod.mk.inj (Option.some.inj h)
    exact fun hmem => absurd (List.mem_takeWhile_imp hmem) (by decide)
  · exact absurd h (by simp)

/-- No name that is taken from a line holds an equals sign. -/
theorem not_mem_of_takeTarget {cs name rest : List Char} (h : takeTarget cs = .ok (name, rest)) :
    '=' ∉ name := by
  rw [takeTarget] at h
  split at h
  · exact absurd h (by simp)
  · rename_i hname
    obtain ⟨rfl, -⟩ := Prod.mk.inj (Except.ok.inj h)
    exact not_mem_of_takeName hname
  · split at h
    · exact absurd h (by simp)
    · split at h
      · exact absurd h (by simp)
      · rename_i hname
        obtain ⟨rfl, -⟩ := Prod.mk.inj (Except.ok.inj h)
        exact not_mem_of_takeName hname
      · exact absurd h (by simp)

/-- No name that a line assigns to holds an equals sign. -/
theorem not_mem_of_readLine {lookup : String → Option String} {line : List Char} {a : Assignment}
    (h : readLine lookup line = .ok (some a)) : '=' ∉ a.name.toList := by
  simp only [readLine] at h
  split at h
  · exact absurd h (by simp)
  · split at h
    · exact absurd h (by simp)
    · rename_i htarget
      split at h
      · rw [← Option.some.inj (Except.ok.inj h), String.toList_ofList]
        exact not_mem_of_takeTarget htarget
      · split at h
        · exact absurd h (by simp)
        · rw [← Option.some.inj (Except.ok.inj h), String.toList_ofList]
          exact not_mem_of_takeTarget htarget

theorem not_mem_of_mem_assignments {vars : Variables} {earlier : List Assignment}
    {lines : List (List Char)} : ∀ a ∈ assignments vars earlier lines, '=' ∉ a.name.toList := by
  induction lines generalizing earlier with
  | nil => exact fun a ha => absurd ha List.not_mem_nil
  | cons line rest ih =>
    rw [assignments]
    split
    · rename_i a ha
      intro b hb
      rcases List.mem_cons.1 hb with rfl | hb
      · exact not_mem_of_readLine ha
      · exact ih b hb
    · exact ih

theorem takeWhile_before_equals {cs : List Char} (h : '=' ∉ cs) (rest : List Char) :
    (cs ++ '=' :: rest).takeWhile (· ≠ '=') = cs := by
  have hall : ∀ c ∈ cs, decide (c ≠ '=') = true := by
    intro c hc
    rw [decide_eq_true_eq]
    rintro rfl
    exact h hc
  rw [List.takeWhile_append_of_pos hall, List.takeWhile_cons_of_neg (by simp), List.append_nil]

/-- Up to the first equals sign a variable is told by its name. -/
theorem withoutBeginning?_eq {name key value : String} (hname : '=' ∉ name.toList)
    (hkey : '=' ∉ key.toList) :
    Text.withoutBeginning? (name ++ "=") (key ++ "=" ++ value) =
      if name = key then some value else none := by
  have hparts : (key ++ "=" ++ value).toList = key.toList ++ '=' :: value.toList := by
    simp [String.toList_append]
  rw [Text.withoutBeginning?, hparts, String.toList_append]
  split
  · rename_i hsame
    subst hsame
    have hbegins : (name.toList ++ "=".toList).isPrefixOf? (name.toList ++ '=' :: value.toList) =
        some value.toList := List.isPrefixOf?_eq_some_iff_append_eq.2 (by simp)
    rw [hbegins, Option.map_some, String.ofList_toList]
  · rename_i hdiffer
    rw [Option.map_eq_none_iff, Option.eq_none_iff_forall_ne_some]
    intro rest hbegins
    have happend := List.isPrefixOf?_eq_some_iff_append_eq.1 hbegins
    -- both names end at the first equals sign
    have hnames := congrArg (List.takeWhile (· ≠ '=')) happend
    rw [takeWhile_before_equals hkey, List.append_assoc] at hnames
    exact hdiffer (String.toList_injective ((takeWhile_before_equals hname rest).symm.trans hnames))

/-- **A reference finds the variable of its name**, where no name holds an equals sign. -/
theorem valueOf?_eq_find? {vars : Variables} {name : String} (hsome : name ≠ "")
    (hname : '=' ∉ name.toList) (hkeys : ∀ key ∈ vars.names, '=' ∉ key.toList) :
    valueOf? vars name = vars.find? name := by
  rw [valueOf?, if_neg hsome, Dictionary.find?]
  have hall : ∀ p ∈ vars.entries, '=' ∉ p.1.toList := fun p hp =>
    hkeys p.1 (List.mem_map.2 ⟨p, hp, rfl⟩)
  generalize vars.entries = entries at hall ⊢
  induction entries with
  | nil => rfl
  | cons p rest ih =>
    obtain ⟨key, value⟩ := p
    have hkey : '=' ∉ key.toList := hall _ List.mem_cons_self
    rw [List.findSome?_cons, List.lookup_cons]
    simp only [withoutBeginning?_eq hname hkey]
    by_cases h : name = key
    · simp [h]
    · rw [if_neg h, beq_eq_false_iff_ne.2 h]
      exact ih fun p hp => hall p (List.mem_cons_of_mem _ hp)

/-- A reference finds a variable of the surroundings first, and then what was first assigned. -/
theorem valueOf?_overlaid {vars : Variables} (hkeys : ∀ key ∈ vars.names, '=' ∉ key.toList)
    (lines : List (List Char)) {name : String} (hsome : name ≠ "") (hname : '=' ∉ name.toList) :
    valueOf? (overlaid vars (assignments vars [] lines)) name =
      (vars.find? name).or (firstValue (assignments vars [] lines) name) := by
  rw [← find?_overlaid]
  refine valueOf?_eq_find? hsome hname fun key hkey => ?_
  rw [overlaid, Dictionary.mem_names_ofList] at hkey
  obtain ⟨p, hp, rfl⟩ := hkey
  rcases List.mem_append.1 hp with hp | hp
  · obtain ⟨a, ha, rfl⟩ := List.mem_map.1 hp
    exact not_mem_of_mem_assignments a (List.mem_reverse.1 ha)
  · exact hkeys p.1 (List.mem_map.2 ⟨p, hp, rfl⟩)

/-! ## Replacing what is not used -/

/-- **Texts that differ in the values of one variable only.** The lines that assign to it stand
where nothing is open: at the beginning, behind a well-formed piece, or behind each other. -/
inductive Reworded (name : String) : List Char → List Char → Prop
  | same (text : List Char) : Reworded name text text
  | kept {piece text other : List Char} (hpiece : ∃ lines, HasLines piece lines)
      (hend : ∀ c ∈ piece.getLast?, c = '\n') (h : Reworded name text other) :
      Reworded name (piece ++ text) (piece ++ other)
  | value {front value value' text other : List Char} (hfront : IsFront name front)
      (hvalue : TakesOneLine front value) (hvalue' : TakesOneLine front value')
      (h : Reworded name text other) :
      Reworded name (front ++ value ++ '\n' :: text) (front ++ value' ++ '\n' :: other)
  /-- The last line need not have an end. -/
  | last {front value value' : List Char} (hfront : IsFront name front)
      (hvalue : '\n' ∉ front ++ value) (hvalue' : '\n' ∉ front ++ value') :
      Reworded name (front ++ value) (front ++ value')

section

variable {name : String} {vars : Variables}

theorem runLine_front {front rest : List Char} (hfront : IsFront name front)
    (hset : vars.contains name = true) (hreadable : IsReadable (front ++ rest)) :
    runLine vars (.ok (front ++ rest)) = .ok vars := by
  obtain ⟨b, hb⟩ := hreadable
  obtain ⟨a, ha, -⟩ := exists_readLine_of_ok (valueOf? vars) hb
  obtain ⟨value, rfl⟩ := hfront.exists_readLine ha
  rw [runLine_ok, ha]
  exact congrArg Except.ok (assign_of_contains hset)

/-- A variable that is set stays set. -/
theorem contains_of_runLine {line : Except Fault (List Char)} {after : Variables}
    (h : runLine vars line = .ok after) (hset : vars.contains name = true) :
    after.contains name = true := by
  obtain ⟨cs, -, a, -, rfl⟩ := runLine_eq_ok_iff.1 h
  cases a with
  | none => exact hset
  | some a => exact contains_assign hset a

theorem contains_of_foldlM {lines : List (Except Fault (List Char))} {after : Variables}
    (h : lines.foldlM runLine vars = .ok after) (hset : vars.contains name = true) :
    after.contains name = true := by
  induction lines generalizing vars with
  | nil =>
    obtain rfl := Except.ok.inj h
    exact hset
  | cons line rest ih =>
    rw [List.foldlM_cons, bind_eq_ok_iff] at h
    obtain ⟨next, hline, hrest⟩ := h
    exact ih hrest (contains_of_runLine hline hset)

/-- Where the lines of a well-formed text are some lines and then those of a rest, the former can be
read and the rest is well-formed by itself. -/
theorem HasLines.of_append {text rest : List Char} {lines : List (List Char)}
    {before : List (Except Fault (List Char))} (h : HasLines text lines)
    (hsplit : logicalLines text = before ++ logicalLines rest) :
    (∀ line ∈ before, ∃ cs, line = .ok cs ∧ IsReadable cs) ∧ ∃ lines, HasLines rest lines := by
  have hmap : lines.map .ok = before ++ logicalLines rest := h.joined.symm.trans hsplit
  obtain ⟨front, back, rfl, hfront, hback⟩ := List.map_eq_append_iff.1 hmap
  refine ⟨fun line hline => ?_, back, hback.symm, fun line hline =>
    h.readable line (List.mem_append_right _ hline)⟩
  rw [← hfront] at hline
  obtain ⟨cs, hcs, rfl⟩ := List.mem_map.1 hline
  exact ⟨cs, rfl, h.readable cs (List.mem_append_left _ hcs)⟩

/-- A line that assigns to a variable that is set can be left out. -/
theorem foldlM_front {front value text : List Char} {lines : List (List Char)}
    (hfront : IsFront name front) (hvalue : TakesOneLine front value)
    (hset : vars.contains name = true)
    (h : HasLines (front ++ value ++ '\n' :: text) lines) :
    (logicalLines (front ++ value ++ '\n' :: text)).foldlM runLine vars =
        (logicalLines text).foldlM runLine vars ∧ ∃ lines, HasLines text lines := by
  have hclosed : ∀ s, LineState.complete.atEnd (front ++ (value ++ ['\n'])) = .state s →
      s = .complete := by
    rw [← List.append_assoc]
    exact hvalue.closed
  obtain ⟨rest, hrest⟩ := hfront.exists_joinLines hclosed ((cutLines '\n' text).map some)
  have hsplit : logicalLines (front ++ value ++ '\n' :: text) =
      [.ok (front ++ rest)] ++ logicalLines text := by
    rw [logicalLines, cutLines_line hvalue.noLineFeed, List.map_cons, List.append_assoc, hrest]
    rfl
  obtain ⟨hbefore, hlines⟩ := h.of_append hsplit
  obtain ⟨_, ⟨⟩, hreadable⟩ := hbefore _ (List.mem_singleton_self _)
  refine ⟨?_, hlines⟩
  rw [hsplit, List.singleton_append, List.foldlM_cons, runLine_front hfront hset hreadable]
  rfl

/-- So it is with the last line, which may have no end. -/
theorem foldlM_last {front value : List Char} {lines : List (List Char)}
    (hfront : IsFront name front) (hvalue : '\n' ∉ front ++ value)
    (hset : vars.contains name = true) (h : HasLines (front ++ value) lines) :
    (logicalLines (front ++ value)).foldlM runLine vars = .ok vars := by
  obtain ⟨start, hstart⟩ := hfront.exists_append
  have hcut : cutLines '\n' (front ++ value) = [front ++ value] :=
    cutLines_last (by simp [hstart]) hvalue
  have hlogical : logicalLines (front ++ value) =
      joinLines .complete [] [some (front ++ value)] := by
    rw [logicalLines, hcut, List.map_singleton]
  obtain ⟨rest, hrest⟩ :=
    hfront.exists_joinLines (hfront.closed_of_last (hlogical.symm.trans h.joined)) []
  have hsplit : logicalLines (front ++ value) = [.ok (front ++ rest)] ++ logicalLines [] := by
    rw [hlogical, hrest]
    rfl
  obtain ⟨hbefore, -⟩ := h.of_append hsplit
  obtain ⟨_, ⟨⟩, hreadable⟩ := hbefore _ (List.mem_singleton_self _)
  rw [hsplit, List.singleton_append, List.foldlM_cons, runLine_front hfront hset hreadable]
  rfl

/-- **What is assigned to a variable that is set does not matter.** -/
theorem foldlM_reworded {text other : List Char} (h : Reworded name text other)
    (hset : vars.contains name = true) (htext : ∃ lines, HasLines text lines)
    (hother : ∃ lines, HasLines other lines) :
    (logicalLines text).foldlM runLine vars = (logicalLines other).foldlM runLine vars := by
  obtain ⟨lines, htext⟩ := htext
  obtain ⟨others, hother⟩ := hother
  -- on how the texts differ; that the variable is set is kept by the pieces they share
  induction h generalizing vars lines others with
  | same text => rfl
  | @kept piece text other hpiece hend h ih =>
    obtain ⟨pieces, hpiece⟩ := hpiece
    have hsplit := hpiece.logicalLines_append hend text
    have hsplit' := hpiece.logicalLines_append hend other
    obtain ⟨-, rests, hrest⟩ := htext.of_append hsplit
    obtain ⟨-, rests', hrest'⟩ := hother.of_append hsplit'
    rw [hsplit, hsplit', List.foldlM_append, List.foldlM_append]
    cases hrun : (logicalLines piece).foldlM runLine vars with
    | error fault => rfl
    | ok next => exact ih (contains_of_foldlM hrun hset) rests hrest rests' hrest'
  | value hfront hvalue hvalue' h ih =>
    obtain ⟨hrun, rests, hrest⟩ := foldlM_front hfront hvalue hset htext
    obtain ⟨hrun', rests', hrest'⟩ := foldlM_front hfront hvalue' hset hother
    rw [hrun, hrun']
    exact ih hset rests hrest rests' hrest'
  | last hfront hvalue hvalue' =>
    rw [foldlM_last hfront hvalue hset htext, foldlM_last hfront hvalue' hset hother]

end

end CatalogEntities.DotEnv

namespace CatalogEntities.Settings

open DotEnv

/-! ## Settings from the surroundings -/

/-- **The surroundings come before the file**, where that is a text of the given lines. That it has
lines at all is no condition beyond its being accepted (`accepted`), so nothing is said here of some
texts and withheld of others. -/
structure SurroundingsFirst (fs : FileSystem) (vars : Variables) (text : String)
    (lines : List (List Char)) : Prop where
  /-- A text has lines exactly if it can be carried out, and that is the same for all variables:
  what a reference finds may change a value, and never whether a line is well-formed. -/
  accepted : ∀ (others : Variables) (other : String),
    (∃ lines, HasLines (body other) lines) ↔ ∃ after, loadText others other = .ok after
  /-- A variable of the surroundings keeps its value, and any other has the one that the file first
  assigns to it. -/
  settings : ofSurroundings fs vars =
    ofVariables fun name => (vars.find? name).or (firstValue (assignments vars [] lines) name)
  /-- So it is with references, whatever lines were before. -/
  references : (∀ key ∈ vars.names, '=' ∉ key.toList) → ∀ before name, name ≠ "" →
    '=' ∉ name.toList →
      valueOf? (overlaid vars (assignments vars [] before)) name =
        (vars.find? name).or (firstValue (assignments vars [] before) name)
  /-- What the file assigns to a variable of the surroundings does not matter. -/
  reworded : ∀ name fs' text' lines', vars.contains name = true →
    DotEnv.find? fs' = some text'.toByteArray → HasLines (body text') lines' →
    Reworded name (body text) (body text') → ofSurroundings fs' vars = ofSurroundings fs vars

/-- **Variables of the surroundings win over those of the file**, and among those of the file the
first to each name does. -/
theorem surroundingsFirst {fs : FileSystem} {text : String} {lines : List (List Char)}
    (hfile : DotEnv.find? fs = some text.toByteArray) (hlines : HasLines (body text) lines)
    (vars : Variables) : SurroundingsFirst fs vars text lines where
  accepted _ _ := exists_hasLines_iff
  settings := by
    have hload : load vars text.toByteArray = .ok (overlaid vars (assignments vars [] lines)) :=
      loadText_eq_overlaid hlines vars
    rw [ofSurroundings, loadFrom, hfile]
    simp only [hload]
    exact congrArg ofVariables (funext fun name => find?_overlaid _ _ _)
  references hkeys before _ hsome hname := valueOf?_overlaid hkeys before hsome hname
  reworded name fs' text' lines' hset hfile' hlines' hreworded := by
    have hload : load vars text'.toByteArray = load vars text.toByteArray := by
      show loadText vars text' = loadText vars text
      rw [loadText_eq, loadText_eq]
      exact (foldlM_reworded hreworded hset ⟨lines, hlines⟩ ⟨lines', hlines'⟩).symm
    rw [ofSurroundings, ofSurroundings, loadFrom, loadFrom, hfile, hfile']
    simp only [hload]

/-- A machine with a file of variables in its working directory. -/
def machineWith (text : String) : FileSystem :=
  (FileSystem.scratch "work").put ["work", ".env"] (.file text.toByteArray)

/-- A file that assigns to a variable, refers to it, and assigns twice to another. -/
def hostFile (value : String) : String :=
  "POSTGRES_HOST=" ++ value ++ "\nPOSTGRES_DATABASE=${POSTGRES_HOST}_shop\n" ++
    "POSTGRES_DATABASE=late\nexport POSTGRES_USER=app"

/-- Its lines, of which the first may have a comment. -/
def hostLines (value : String) : List (List Char) :=
  ["POSTGRES_HOST=" ++ value, "POSTGRES_DATABASE=${POSTGRES_HOST}_shop", "POSTGRES_DATABASE=late",
    "export POSTGRES_USER=app"].map String.toList

def hostSettings : Settings where
  database := ⟨"db", 5432, "db_shop", "app", "", "public", "require"⟩
  generator := .defaults

theorem hasLines_hostFile : HasLines (body (hostFile "other")) (hostLines "other") := by
  decide +kernel

theorem hasLines_hostFile_quoted :
    HasLines (body (hostFile "'an other' # or none")) (hostLines "'an other' ") := by
  decide +kernel

theorem isFront_host : IsFront "POSTGRES_HOST" "POSTGRES_HOST=".toList := by
  have hblanks : Text.AllBlank [] := fun c hc => absurd hc List.not_mem_nil
  exact .behind hblanks (.plain (by decide) hblanks)

theorem reworded_hostFile : Reworded "POSTGRES_HOST" (body (hostFile "other"))
    (body (hostFile "'an other' # or none")) := by
  have hplain : TakesOneLine "POSTGRES_HOST=".toList "other".toList :=
    takesOneLine_of_plain (by decide) (by decide)
  have hquoted : TakesOneLine "POSTGRES_HOST=".toList "'an other' # or none".toList := by
    refine ⟨by decide, fun s hs => ?_⟩
    have hcomment : LineState.complete.atEnd ("POSTGRES_HOST=".toList ++
        "'an other' # or none".toList ++ ['\n']) =
          .comment "POSTGRES_HOST='an other' ".toList := by decide
    rw [hcomment] at hs
    exact absurd hs (by simp)
  exact .value isFront_host hplain hquoted (.same _)

/-- The variable keeps the value of the surroundings, also for the references to it, and of two
assignments the first counts. -/
theorem surroundingsFirst_host :
    (DotEnv.find? (machineWith (hostFile "other")) = some (hostFile "other").toByteArray ∧
      HasLines (body (hostFile "other")) (hostLines "other") ∧
      Reworded "POSTGRES_HOST" (body (hostFile "other"))
        (body (hostFile "'an other' # or none"))) ∧
    SurroundingsFirst (machineWith (hostFile "other")) (.ofList [("POSTGRES_HOST", "db")])
      (hostFile "other") (hostLines "other") ∧
    ofSurroundings (machineWith (hostFile "'an other' # or none"))
      (.ofList [("POSTGRES_HOST", "db")]) = .ok hostSettings := by
  have hfile : ∀ text, DotEnv.find? (machineWith text) = some text.toByteArray := fun _ => rfl
  have hfirst : SurroundingsFirst (machineWith (hostFile "other"))
      (.ofList [("POSTGRES_HOST", "db")]) (hostFile "other") (hostLines "other") :=
    surroundingsFirst (hfile _) hasLines_hostFile _
  refine ⟨⟨hfile _, hasLines_hostFile, reworded_hostFile⟩, hfirst, ?_⟩
  rw [hfirst.reworded "POSTGRES_HOST" _ _ _ (by decide +kernel) (hfile _) hasLines_hostFile_quoted
    reworded_hostFile, hfirst.settings]
  decide +kernel

end CatalogEntities.Settings
