import CatalogEntities.Path
import CatalogEntities.Proofs.Text.Pieces

/-!
# `Proofs/Path.lean` — what a path leads over

Two things about the text of a path matter to a file system: whether it begins at the root, and
the **steps** that it takes, which are its segments without the idle ones. Joining a name, taking
the last name away and putting another in its place are operations on text with many cases
(doubled slashes, slashes at the end, single dots); said in steps they are what they should be:

* a joined name is one more step (`steps_join`),
* another last name is another last step (`steps_withFileName`),
* a parent takes an initial part of the steps (`steps_prefix_of_parent?`).

A path is **inside** a directory if it takes the steps of the directory and one more, by a name. For
a joined name this is decided by the name alone, unless the name is absolute (`inside_join_iff`).
-/

set_option autoImplicit false

namespace CatalogEntities.Path

open CatalogEntities.Text

/-- The steps of a path: its segments that lead somewhere. An empty segment and a single dot stay
where they are; two dots are a step. -/
def steps (path : String) : List String := (segments path).filter fun s => !isIdle s

/-- **A name of its own**: one segment of a path that leads down. -/
structure IsName (name : String) : Prop where
  /-- It is one segment, -/
  noSlash : '/' ∉ name.toList
  /-- which is neither empty nor a dot, -/
  notIdle : isIdle name = false
  /-- and does not lead up. -/
  notUp : name ≠ ".."

instance (name : String) : Decidable (IsName name) :=
  decidable_of_iff ('/' ∉ name.toList ∧ isIdle name = false ∧ name ≠ "..")
    ⟨fun ⟨noSlash, notIdle, notUp⟩ => ⟨noSlash, notIdle, notUp⟩,
      fun h => ⟨h.noSlash, h.notIdle, h.notUp⟩⟩

theorem IsName.ne_empty {name : String} (h : IsName name) : name ≠ "" := by
  intro hname
  have := h.notIdle
  rw [hname] at this
  exact absurd this (by decide)

/-- A segment that does not end with a dot leads down. -/
theorem IsName.of_getLast? {name : String} {last : Char} (hslash : '/' ∉ name.toList)
    (hlast : name.toList.getLast? = some last) (hdot : last ≠ '.') : IsName name := by
  refine ⟨hslash, ?_, ?_⟩
  · cases hidle : isIdle name with
    | false => rfl
    | true =>
      rcases Bool.or_eq_true_iff.1 hidle with h | h
      · rw [of_decide_eq_true h] at hlast
        exact absurd hlast (by simp)
      · rw [of_decide_eq_true h] at hlast
        exact absurd (Option.some.inj hlast).symm hdot
  · rintro rfl
    exact hdot (Option.some.inj hlast).symm

/-! ## Segments -/

theorem segments_ne_nil (path : String) : segments path ≠ [] := by
  intro h
  exact List.splitOn_ne_nil '/' _ (List.map_eq_nil_iff.1 h)

theorem not_mem_of_mem_segments {path segment : String} (h : segment ∈ segments path) :
    '/' ∉ segment.toList := by
  obtain ⟨piece, hpiece, rfl⟩ := List.mem_map.1 h
  rw [String.toList_ofList]
  exact not_mem_of_mem_splitOn hpiece

theorem segments_of_not_mem {name : String} (h : '/' ∉ name.toList) : segments name = [name] := by
  rw [segments, List.splitOn_eq_singleton h, List.map_singleton, String.ofList_toList]

theorem intercalate_segments (path : String) : "/".intercalate (segments path) = path := by
  apply String.toList_injective
  rw [String.toList_intercalate, segments, List.map_map]
  have hpieces : (path.toList.splitOn '/').map (String.toList ∘ String.ofList) =
      path.toList.splitOn '/' :=
    (List.map_congr_left fun _ _ => String.toList_ofList).trans (List.map_id _)
  rw [hpieces]
  exact List.intercalate_splitOn '/'

theorem segments_append_slash_append (a b : String) :
    segments (a ++ "/" ++ b) = segments a ++ segments b := by
  have htext : (a ++ "/" ++ b).toList = a.toList ++ '/' :: b.toList := by
    rw [String.toList_append, String.toList_append, List.append_assoc]
    rfl
  rw [segments, htext, List.splitOn_append_cons_self, List.map_append]
  rfl

/-- Segments that are put together with slashes are the segments of the path, if they have none. -/
theorem segments_intercalate {segs : List String} (hsegs : segs ≠ [])
    (hslash : ∀ s ∈ segs, '/' ∉ s.toList) : segments ("/".intercalate segs) = segs := by
  have hpieces : ∀ piece ∈ segs.map String.toList, '/' ∉ piece := by
    intro piece hpiece
    obtain ⟨s, hs, rfl⟩ := List.mem_map.1 hpiece
    exact hslash s hs
  have hsplit := List.splitOn_intercalate '/' hpieces (by simpa using hsegs)
  rw [segments, String.toList_intercalate]
  show (List.splitOn '/' (['/'].intercalate (segs.map String.toList))).map String.ofList = segs
  rw [hsplit, List.map_map]
  exact (List.map_congr_left fun s _ => String.ofList_toList).trans (List.map_id segs)

/-- A path whose last segment is empty is empty or ends with a slash. -/
theorem eq_empty_or_endsWithSlash {path : String} (h : (segments path).getLast? = some "") :
    path = "" ∨ ∃ front, path = front ++ "/" := by
  obtain ⟨init, hinit⟩ := List.getLast?_eq_some_iff.1 h
  have hpath : path = "/".intercalate (init ++ [""]) := by
    rw [← hinit, intercalate_segments]
  cases init with
  | nil => exact Or.inl hpath
  | cons first rest =>
    refine Or.inr ⟨"/".intercalate (first :: rest), hpath.trans ?_⟩
    apply String.toList_injective
    rw [String.toList_append, String.toList_intercalate, String.toList_intercalate,
      List.map_append, List.map_cons]
    exact intercalate_append_nil _ _ _

/-- A path begins at the root exactly if an empty segment stands before its others. In this form it
is carried through the operations on segments. -/
theorem isAbsolute_iff {path : String} :
    isAbsolute path = true ↔ ∃ rest, rest ≠ [] ∧ segments path = "" :: rest := by
  rw [isAbsolute, decide_eq_true_iff]
  constructor
  · intro h
    obtain ⟨chars, hchars⟩ := List.head?_eq_some_iff.1 h
    refine ⟨(chars.splitOn '/').map String.ofList, ?_, ?_⟩
    · rw [ne_eq, List.map_eq_nil_iff]
      exact List.splitOn_ne_nil '/' chars
    · rw [segments, hchars]
      exact congrArg (List.map String.ofList) (List.splitOn_append_cons_self [] chars)
  · rintro ⟨rest, hrest, h⟩
    obtain ⟨second, others, rfl⟩ := List.exists_cons_of_ne_nil hrest
    have hpath : path = "/".intercalate ("" :: second :: others) := by
      rw [← h, intercalate_segments]
    rw [hpath, String.toList_intercalate]
    rfl

/-! ## Idle segments -/

/-- A segment that leads nowhere is no step. -/
theorem filter_dropWhile_isIdle (segs : List String) :
    (segs.dropWhile isIdle).filter (fun s => !isIdle s) = segs.filter fun s => !isIdle s := by
  induction segs with
  | nil => rfl
  | cons s rest ih =>
    cases hs : isIdle s with
    | false => rw [List.dropWhile_cons_of_neg (by simp [hs])]
    | true => rw [List.dropWhile_cons_of_pos hs, ih, List.filter_cons_of_neg (by simp [hs])]

theorem filter_trimIdle (segs : List String) :
    (trimIdle segs).filter (fun s => !isIdle s) = segs.filter fun s => !isIdle s := by
  cases segs with
  | nil => rfl
  | cons first rest =>
    rw [trimIdle, List.filter_cons, List.filter_cons, List.filter_reverse,
      filter_dropWhile_isIdle, List.filter_reverse, List.reverse_reverse]

theorem head?_trimIdle (segs : List String) : (trimIdle segs).head? = segs.head? := by
  cases segs <;> rfl

theorem mem_of_mem_trimIdle {segs : List String} {s : String} (h : s ∈ trimIdle segs) :
    s ∈ segs := by
  cases segs with
  | nil => exact h
  | cons first rest =>
    rcases List.mem_cons.1 h with rfl | h
    · exact List.mem_cons_self
    · rw [List.mem_reverse] at h
      exact List.mem_cons_of_mem _ (List.mem_reverse.1 (List.dropWhile_sublist _ |>.mem h))

/-! ## Paths of segments -/

/-- The steps of a path that is put together are the segments that lead somewhere. -/
theorem steps_ofSegments {segs : List String} (hslash : ∀ s ∈ segs, '/' ∉ s.toList) :
    steps (ofSegments segs) = segs.filter fun s => !isIdle s := by
  unfold ofSegments
  split
  · rfl
  · by_cases hnil : segs = []
    · rw [hnil]
      rfl
    · rw [steps, segments_intercalate hnil hslash]

/-- A path that is put together begins at the root if its first segment is empty. The root itself
has to be put together as one slash, and not as nothing. -/
theorem isAbsolute_ofSegments {segs : List String} (hslash : ∀ s ∈ segs, '/' ∉ s.toList) :
    isAbsolute (ofSegments segs) = true ↔ segs.head? = some "" := by
  unfold ofSegments
  split
  · exact ⟨fun _ => rfl, fun _ => rfl⟩
  · rename_i hroot
    by_cases hnil : segs = []
    · rw [hnil]
      exact ⟨fun h => absurd h (by decide), fun h => absurd h (by simp)⟩
    · rw [isAbsolute_iff, segments_intercalate hnil hslash, List.head?_eq_some_iff]
      constructor
      · rintro ⟨rest, -, h⟩
        exact ⟨rest, h⟩
      · rintro ⟨rest, h⟩
        refine ⟨rest, ?_, h⟩
        rintro rfl
        exact hroot h

/-! ## A name in a directory -/

/-- The segments of a directory that a joined name comes after: a slash at the end is taken up by
the joining. -/
def trunk (directory : String) : List String :=
  if (segments directory).getLast? = some "" then (segments directory).dropLast
  else segments directory

theorem filter_trunk (directory : String) :
    (trunk directory).filter (fun s => !isIdle s) = steps directory := by
  unfold trunk
  split
  · rename_i h
    obtain ⟨init, hinit⟩ := List.getLast?_eq_some_iff.1 h
    rw [steps, hinit, List.dropLast_concat, List.filter_append]
    simp [isIdle]
  · rfl

theorem isAbsolute_of_not_mem {name : String} (h : '/' ∉ name.toList) :
    isAbsolute name = false := by
  rw [isAbsolute, decide_eq_false_iff_not]
  intro hhead
  obtain ⟨rest, hrest⟩ := List.head?_eq_some_iff.1 hhead
  exact h (hrest ▸ List.mem_cons_self)

/-- What is joined comes after the directory, segment by segment. -/
theorem segments_join_of_relative (directory : String) {name : String}
    (h : isAbsolute name = false) :
    segments (join directory name) = trunk directory ++ segments name := by
  rw [join, h, if_neg (by decide)]
  -- no directory at all, a directory with a slash at its end, and one that needs a slash
  by_cases hempty : directory = ""
  · rw [if_pos (Or.inl hempty), hempty, String.empty_append]
    rfl
  · by_cases hslash : endsWithSlash directory = true
    · obtain ⟨front, hfront⟩ := List.getLast?_eq_some_iff.1 (of_decide_eq_true hslash)
      have hdir : directory = String.ofList front ++ "/" := by
        apply String.toList_injective
        rw [hfront, String.toList_append, String.toList_ofList]
        rfl
      have hsegs : segments directory = segments (String.ofList front) ++ [""] := by
        have := segments_append_slash_append (String.ofList front) ""
        rw [String.append_empty, ← hdir] at this
        exact this
      rw [if_pos (Or.inr hslash), trunk, hsegs, List.getLast?_concat, if_pos rfl,
        List.dropLast_concat, hdir, segments_append_slash_append]
    · have hlast : (segments directory).getLast? ≠ some "" := by
        intro hlast
        rcases eq_empty_or_endsWithSlash hlast with hnil | ⟨front, hfront⟩
        · exact hempty hnil
        · apply hslash
          rw [hfront, endsWithSlash, String.toList_append]
          exact decide_eq_true (List.getLast?_concat ..)
      rw [if_neg (by simp [hempty, hslash]), trunk, if_neg hlast, segments_append_slash_append]

/-- **A joined name is one more segment.** -/
theorem segments_join (directory : String) {name : String} (h : '/' ∉ name.toList) :
    segments (join directory name) = trunk directory ++ [name] := by
  rw [segments_join_of_relative directory (isAbsolute_of_not_mem h), segments_of_not_mem h]

/-- Different names in a directory have different paths. -/
theorem join_inj {directory a b : String} (ha : '/' ∉ a.toList) (hb : '/' ∉ b.toList)
    (h : join directory a = join directory b) : a = b := by
  have hsegments := congrArg segments h
  rw [segments_join directory ha, segments_join directory hb] at hsegments
  exact (List.cons.inj (List.append_cancel_left hsegments)).1

/-- A name is its only step. -/
theorem IsName.steps_eq {name : String} (h : IsName name) : steps name = [name] := by
  rw [steps, segments_of_not_mem h.noSlash]
  simp [h.notIdle]

/-- **What is joined takes its steps after those of the directory.** -/
theorem steps_join_of_relative (directory : String) {name : String}
    (h : isAbsolute name = false) :
    steps (join directory name) = steps directory ++ steps name := by
  rw [steps, segments_join_of_relative directory h, List.filter_append, filter_trunk]
  rfl

/-- Text behind a path does not matter to where it begins. -/
theorem isAbsolute_append {path : String} (h : path ≠ "") (text : String) :
    isAbsolute (path ++ text) = isAbsolute path := by
  have hchars : path.toList ≠ [] := by
    intro hnil
    exact h (String.toList_injective hnil)
  obtain ⟨first, rest, hpath⟩ := List.exists_cons_of_ne_nil hchars
  rw [isAbsolute, isAbsolute, String.toList_append, hpath]
  rfl

/-- What is joined does not change where a path begins, unless it begins at the root itself. -/
theorem isAbsolute_join_of_relative (directory : String) {name : String}
    (h : isAbsolute name = false) : isAbsolute (join directory name) = isAbsolute directory := by
  rw [join, h, if_neg (by decide)]
  by_cases hempty : directory = ""
  · rw [if_pos (Or.inl hempty), hempty, String.empty_append, h]
    rfl
  · split
    · exact isAbsolute_append hempty name
    · rw [String.append_assoc, isAbsolute_append hempty]

theorem isAbsolute_join (directory : String) {name : String} (h : IsName name) :
    isAbsolute (join directory name) = isAbsolute directory :=
  isAbsolute_join_of_relative directory (isAbsolute_of_not_mem h.noSlash)

/-- **A joined name is one more step.** -/
theorem steps_join (directory : String) {name : String} (h : IsName name) :
    steps (join directory name) = steps directory ++ [name] := by
  rw [steps_join_of_relative directory (isAbsolute_of_not_mem h.noSlash), h.steps_eq]

/-! ## Parents -/

/-- A parent is put together from the segments before the last. -/
theorem exists_of_parent? {path parent : String} (h : parent? path = some parent) :
    path ≠ "" ∧ trimIdle (segments path) ≠ [""] ∧
      parent = ofSegments (trimIdle (trimIdle (segments path)).dropLast) := by
  unfold parent? at h
  split at h
  · exact absurd h (by simp)
  · rename_i hpath
    split at h
    · exact absurd h (by simp)
    · rename_i hroot
      exact ⟨hpath, hroot, (Option.some.inj h).symm⟩

theorem noSlash_of_mem_parent {path s : String}
    (h : s ∈ trimIdle (trimIdle (segments path)).dropLast) : '/' ∉ s.toList :=
  not_mem_of_mem_segments
    (mem_of_mem_trimIdle (List.dropLast_subset _ (mem_of_mem_trimIdle h)))

/-- **A parent takes the first steps of a path.** -/
theorem steps_prefix_of_parent? {path parent : String} (h : parent? path = some parent) :
    steps parent <+: steps path := by
  obtain ⟨-, -, rfl⟩ := exists_of_parent? h
  rw [steps_ofSegments fun s => noSlash_of_mem_parent, filter_trimIdle, steps,
    ← filter_trimIdle (segments path)]
  exact (List.dropLast_prefix _).filter _

/-- A parent begins where the path begins. -/
theorem isAbsolute_of_parent? {path parent : String} (h : parent? path = some parent) :
    isAbsolute parent = isAbsolute path := by
  obtain ⟨hpath, hroot, rfl⟩ := exists_of_parent? h
  rw [Bool.eq_iff_iff, isAbsolute_ofSegments fun s => noSlash_of_mem_parent, head?_trimIdle,
    isAbsolute_iff]
  cases hsegs : segments path with
  | nil => exact absurd hsegs (segments_ne_nil path)
  | cons first rest =>
    rw [hsegs, trimIdle] at hroot
    rw [trimIdle]
    cases htrim : (rest.reverse.dropWhile isIdle).reverse with
    | nil =>
      -- one segment is left, and it is not the root
      have hfirst : first ≠ "" := by
        rintro rfl
        exact hroot (by rw [htrim])
      simp [hfirst]
    | cons second others =>
      have hrest : rest ≠ [] := by
        rintro rfl
        exact absurd htrim (by simp)
      simp [hrest]

/-! ## The last step -/

/-- The segments of a path end with its last step, but for idle ones. -/
theorem exists_trimIdle_segments {path name : String} {front : List String}
    (h : steps path = front ++ [name]) :
    ∃ before, trimIdle (segments path) = before ++ [name] ∧
      before.filter (fun s => !isIdle s) = front := by
  have hfilter := filter_trimIdle (segments path)
  rw [show (segments path).filter (fun s => !isIdle s) = front ++ [name] from h] at hfilter
  cases hsegs : segments path with
  | nil => exact absurd hsegs (segments_ne_nil path)
  | cons first rest =>
    rw [hsegs, trimIdle] at hfilter
    rw [trimIdle]
    -- what is left behind the first segment does not end idly
    rcases List.eq_nil_or_concat (rest.reverse.dropWhile isIdle).reverse with
      hnil | ⟨init, last, hlast⟩
    · rw [hnil] at hfilter ⊢
      cases hidle : isIdle first with
      | true =>
        rw [List.filter_cons_of_neg (by simp [hidle])] at hfilter
        exact absurd hfilter.symm (by simp)
      | false =>
        rw [List.filter_cons_of_pos (by simp [hidle])] at hfilter
        have hsame : [] = front ∧ [first] = [name] := List.append_inj' hfilter rfl
        refine ⟨[], ?_, hsame.1⟩
        rw [List.nil_append, (List.cons.inj hsame.2).1]
    · have hhead : (rest.reverse.dropWhile isIdle).head? = some last := by
        rw [← List.getLast?_reverse, hlast, List.concat_eq_append, List.getLast?_concat]
      have hnot : [last].filter (fun s => !isIdle s) = [last] := by
        have := List.head?_dropWhile_not isIdle rest.reverse
        rw [hhead] at this
        simpa using this
      rw [hlast, List.concat_eq_append, ← List.cons_append, List.filter_append, hnot] at hfilter
      have hsame := List.append_inj' hfilter rfl
      refine ⟨first :: init, ?_, hsame.1⟩
      rw [hlast, List.concat_eq_append, ← List.cons_append, (List.cons.inj hsame.2).1]

/-- A step that does not lead up is a name. -/
theorem isName_of_mem_steps {path name : String} (h : name ∈ steps path) (hup : name ≠ "..") :
    IsName name := by
  obtain ⟨hmem, hidle⟩ := List.mem_filter.1 h
  exact ⟨not_mem_of_mem_segments hmem, by simpa using hidle, hup⟩

/-- The last step of a path is its file name, unless it leads up. -/
theorem fileName?_of_steps {path name : String} {front : List String}
    (h : steps path = front ++ [name]) (hup : name ≠ "..") : fileName? path = some name := by
  have hname := isName_of_mem_steps (h ▸ List.mem_append_right _ List.mem_cons_self) hup
  obtain ⟨before, hsegs, -⟩ := exists_trimIdle_segments h
  rw [fileName?, hsegs, List.getLast?_concat]
  simp [hname.notIdle, hup]

/-- A path that ends with a name has a parent, which takes the steps before it. -/
theorem exists_parent?_of_steps {path name : String} {front : List String}
    (h : steps path = front ++ [name]) (hup : name ≠ "..") :
    ∃ parent, parent? path = some parent ∧ steps parent = front := by
  have hname := isName_of_mem_steps (h ▸ List.mem_append_right _ List.mem_cons_self) hup
  obtain ⟨before, hsegs, hbefore⟩ := exists_trimIdle_segments h
  have hne : path ≠ "" := by
    rintro rfl
    exact absurd h.symm (by simp [steps, segments, isIdle])
  have hparent : parent? path = some (ofSegments (trimIdle before)) := by
    rw [parent?, if_neg hne, hsegs]
    split
    · rename_i hroot
      have hlast := congrArg List.getLast? hroot
      rw [List.getLast?_concat] at hlast
      exact absurd (Option.some.inj hlast) hname.ne_empty
    · rw [List.dropLast_concat]
  refine ⟨_, hparent, ?_⟩
  rw [steps_ofSegments, filter_trimIdle, hbefore]
  -- the segments before the last are segments of the path, so none has a slash
  intro s hs
  have hmem : s ∈ trimIdle (segments path) := by
    rw [hsegs]
    exact List.mem_append_left _ (mem_of_mem_trimIdle hs)
  exact not_mem_of_mem_segments (mem_of_mem_trimIdle hmem)

/-- **Another last name is another last step**, from the same beginning. -/
theorem steps_withFileName {path name other : String} {front : List String}
    (h : steps path = front ++ [name]) (hup : name ≠ "..") (hother : IsName other) :
    steps (withFileName path other) = front ++ [other] ∧
      isAbsolute (withFileName path other) = isAbsolute path := by
  obtain ⟨parent, hparent, hsteps⟩ := exists_parent?_of_steps h hup
  rw [withFileName, fileName?_of_steps h hup, hparent]
  dsimp only [Option.getD_some]
  rw [steps_join parent hother, isAbsolute_join parent hother, hsteps,
    isAbsolute_of_parent? hparent]
  exact ⟨rfl, rfl⟩

/-! ## Inside a directory -/

/-- **A path into a directory**: that of the directory and one name more. -/
structure Inside (directory path : String) : Prop where
  /-- It begins where the directory does, -/
  start : isAbsolute path = isAbsolute directory
  /-- and goes one step further down. -/
  step : ∃ name, IsName name ∧ steps path = steps directory ++ [name]

/-- **A name that leads one step down**, as it is written or after idle segments. -/
structure LeadsDown (name : String) : Prop where
  relative : isAbsolute name = false
  step : ∃ step, IsName step ∧ steps name = [step]

theorem IsName.leadsDown {name : String} (h : IsName name) : LeadsDown name :=
  ⟨isAbsolute_of_not_mem h.noSlash, name, h, h.steps_eq⟩

/-- **A joined name stays in the directory exactly if it leads one step down.** The one exception is
an absolute name, which replaces the directory and may happen to lie in it. This is what a table's
name is asked before its file is said to stay in the output directory. -/
theorem inside_join_iff {directory name : String} :
    Inside directory (join directory name) ↔
      LeadsDown name ∨ (isAbsolute name = true ∧ Inside directory name) := by
  cases habs : isAbsolute name with
  | true =>
    have hjoin : join directory name = name := by rw [join, if_pos habs]
    rw [hjoin]
    constructor
    · intro h
      exact Or.inr ⟨rfl, h⟩
    · rintro (h | h)
      · exact absurd (habs.symm.trans h.relative) (by decide)
      · exact h.2
  | false =>
    constructor
    · rintro ⟨-, step, hstep, hsteps⟩
      rw [steps_join_of_relative directory habs] at hsteps
      exact Or.inl ⟨habs, step, hstep, List.append_cancel_left hsteps⟩
    · rintro (⟨-, step, hstep, hsteps⟩ | h)
      · refine ⟨isAbsolute_join_of_relative directory habs, step, hstep, ?_⟩
        rw [steps_join_of_relative directory habs, hsteps]
      · exact absurd h.1 (by decide)

/-- What stands beside a path into a directory is in the directory too. -/
theorem Inside.withFileName {directory path other : String} (h : Inside directory path)
    (hother : IsName other) : Inside directory (withFileName path other) := by
  obtain ⟨hstart, name, hname, hsteps⟩ := h
  obtain ⟨hsteps', habs⟩ := steps_withFileName hsteps hname.notUp hother
  exact ⟨habs.trans hstart, other, hother, hsteps'⟩

theorem Inside.fileName? {directory path : String} (h : Inside directory path) :
    ∃ name, IsName name ∧ fileName? path = some name := by
  obtain ⟨-, name, hname, hsteps⟩ := h
  exact ⟨name, hname, fileName?_of_steps hsteps hname.notUp⟩

end CatalogEntities.Path
