import CatalogEntities.FileSystem
import CatalogEntities.Proofs.Path

/-!
# `Proofs/FileSystem/Lookup.lean` — where a path leads

Without links a path leads to one place that can be read off its steps: `locate`. Looking a path up
adds conditions but never another place. What it asks of the file system is that the locations it
comes through by name, its **waypoints**, are directories; so two file systems with the same
directories look every path up to the same end (`KeepsDirectories.resolve`).

Steps upwards are not waypoints: nothing is asked of the place they lead to.

Two things are kept apart here. Where a path leads is computed from the path and the working
directory, and it is defined for every path, so that two paths can be compared without knowing what
stands anywhere (`locate`). Whether the path leads there at all depends on the directories, and on
nothing else: files come and go in a run, and directories are only added, so a lookup that succeeded
once succeeds to the end.
-/

set_option autoImplicit false

namespace CatalogEntities

/-! ## Following steps -/

/-- One step from a location. A step up from the root stays there. -/
def Location.enter (loc : Location) (step : String) : Location :=
  if step = ".." then loc.dropLast else loc ++ [step]

/-- Where steps lead from a location. -/
def Location.follow (loc : Location) (steps : List String) : Location :=
  steps.foldl Location.enter loc

/-- The locations that steps lead to by name. A step upwards is followed and not listed: what it
leads to was entered before, or is above where the path begins. -/
def Location.entered (loc : Location) : List String → List Location
  | [] => []
  | step :: rest => (if step = ".." then [] else [loc.enter step]) ++ entered (loc.enter step) rest

namespace Location

theorem follow_append (loc : Location) (first second : List String) :
    loc.follow (first ++ second) = (loc.follow first).follow second :=
  List.foldl_append

theorem follow_append_singleton (loc : Location) (steps : List String) {name : String}
    (h : name ≠ "..") : loc.follow (steps ++ [name]) = loc.follow steps ++ [name] := by
  rw [follow, List.foldl_append, List.foldl_cons, List.foldl_nil, enter, if_neg h]
  rfl

/-- What steps enter is what the first of them enter, and then the others from there. -/
theorem entered_append (loc : Location) (first second : List String) :
    loc.entered (first ++ second) = loc.entered first ++ (loc.follow first).entered second := by
  induction first generalizing loc with
  | nil => rfl
  | cons step rest ih =>
    rw [List.cons_append, entered, entered, ih, List.append_assoc]
    rfl

theorem ne_nil_of_mem_entered {loc place : Location} {steps : List String}
    (h : place ∈ loc.entered steps) : place ≠ [] := by
  induction steps generalizing loc with
  | nil => exact absurd h List.not_mem_nil
  | cons step rest ih =>
    rcases List.mem_append.1 h with h | h
    · split at h
      · exact absurd h List.not_mem_nil
      · rename_i hstep
        rw [List.mem_singleton, enter, if_neg hstep] at h
        rw [h]
        exact List.append_ne_nil_of_right_ne_nil _ (List.cons_ne_nil _ _)
    · exact ih h

end Location

namespace FileSystem

/-! ## Where a path leads -/

/-- Where a path begins. -/
def start (fs : FileSystem) (path : String) : Location :=
  if Path.isAbsolute path then [] else fs.working

/-- **Where a path leads**, whatever stands there. -/
def locate (fs : FileSystem) (path : String) : Location :=
  (fs.start path).follow (Path.steps path)

/-- The locations that a path comes through or ends at by name. -/
def waypoints (fs : FileSystem) (path : String) : List Location :=
  (fs.start path).entered (Path.steps path)

theorem ne_nil_of_mem_waypoints {fs : FileSystem} {path : String} {loc : Location}
    (h : loc ∈ fs.waypoints path) : loc ≠ [] :=
  Location.ne_nil_of_mem_entered h

theorem start_congr {before after : FileSystem} (h : after.working = before.working)
    (path : String) : after.start path = before.start path := by
  rw [start, start, h]

theorem locate_congr {before after : FileSystem} (h : after.working = before.working)
    (path : String) : after.locate path = before.locate path := by
  rw [locate, locate, start_congr h]

theorem waypoints_congr {before after : FileSystem} (h : after.working = before.working)
    (path : String) : after.waypoints path = before.waypoints path := by
  rw [waypoints, waypoints, start_congr h]

/-- A joined name stands in the directory. -/
theorem locate_join (fs : FileSystem) (directory : String) {name : String}
    (h : Path.IsName name) :
    fs.locate (Path.join directory name) = fs.locate directory ++ [name] := by
  rw [locate, locate, start, start, Path.isAbsolute_join directory h, Path.steps_join directory h,
    Location.follow_append_singleton _ _ h.notUp]

/-- What is beside a joined name stands in the same directory. -/
theorem locate_withFileName_join (fs : FileSystem) (directory : String) {name other : String}
    (h : Path.IsName name) (hother : Path.IsName other) :
    fs.locate (Path.withFileName (Path.join directory name) other) =
      fs.locate directory ++ [other] := by
  obtain ⟨hsteps, habs⟩ := Path.steps_withFileName (Path.steps_join directory h) h.notUp hother
  rw [locate, locate, start, start, habs, hsteps, Path.isAbsolute_join directory h,
    Location.follow_append_singleton _ _ hother.notUp]

/-- A parent comes through the first waypoints of a path. -/
theorem waypoints_prefix_of_parent? {fs : FileSystem} {path parent : String}
    (h : Path.parent? path = some parent) : fs.waypoints parent <+: fs.waypoints path := by
  obtain ⟨rest, hrest⟩ := Path.steps_prefix_of_parent? h
  rw [waypoints, waypoints, start, start, Path.isAbsolute_of_parent? h, ← hrest,
    Location.entered_append]
  exact List.prefix_append _ _

/-! ## Looking up -/

/-- Names lead where their steps lead, through directories. -/
theorem walk_eq_ok {fs : FileSystem} {names : List String} {loc directory : Location}
    (h : fs.walk loc names = .ok directory) :
    loc.follow (names.filter (· ≠ ".")) = directory ∧
      ∀ place ∈ loc.entered (names.filter (· ≠ ".")), fs.node? place = some .directory := by
  induction names generalizing loc with
  | nil =>
    injection h with h
    exact ⟨h, fun place hplace => absurd hplace List.not_mem_nil⟩
  | cons name rest ih =>
    rw [walk] at h
    by_cases hidle : name = "."
    · -- a dot takes no step
      rw [if_pos hidle] at h
      rw [List.filter_cons_of_neg (by simp [hidle])]
      exact ih h
    · rw [if_neg hidle] at h
      rw [List.filter_cons_of_pos (by simpa using hidle), Location.entered]
      by_cases hup : name = ".."
      · -- a step upwards is taken without asking what stands there
        rw [if_pos hup] at h ⊢
        have henter : loc.enter name = loc.dropLast := if_pos hup
        rw [List.nil_append, henter]
        have := ih h
        exact ⟨by rw [Location.follow, List.foldl_cons, henter]; exact this.1, this.2⟩
      · rw [if_neg hup] at h ⊢
        have henter : loc.enter name = loc ++ [name] := if_neg hup
        rw [henter]
        split at h
        · exact absurd h (by simp)
        · exact absurd h (by simp)
        · exact absurd h (by simp)
        · rename_i hnode
          have := ih h
          refine ⟨by rw [Location.follow, List.foldl_cons, henter]; exact this.1, ?_⟩
          intro place hplace
          rcases List.mem_append.1 hplace with hplace | hplace
          · rw [List.mem_singleton.1 hplace]
            exact hnode
          · exact this.2 place hplace

/-- The steps of a path are its names without the dots that stay where they are. -/
theorem steps_eq (path : String) : Path.steps path = (Path.names path).filter (· ≠ ".") := by
  rw [Path.names, List.filter_filter, Path.steps]
  refine List.filter_congr fun s _ => ?_
  by_cases hempty : s = "" <;> by_cases hdot : s = "." <;> simp [Path.isIdle, hempty, hdot]

/-- A lookup ends one step behind the directory in which the last name stands, and comes through
nothing but its end. -/
theorem ending_of_last {directory : Location} {last : String} {slashed : Bool} {ending : Ending}
    (h : (if last = "." then .ok (.dots directory)
      else if last = ".." then .ok (.dots directory.dropLast)
      else
        match checkName last with
        | .error fault => .error fault
        | .ok () => .ok (.entry directory last slashed) : Except SystemFault Ending) = .ok ending) :
    directory.follow ([last].filter (· ≠ ".")) = ending.location ∧
      ((∃ other, ending = .dots other) ∨
        ending.location ∈ directory.entered ([last].filter (· ≠ "."))) ∧
      ∀ loc ∈ directory.entered ([last].filter (· ≠ ".")), loc = ending.location := by
  by_cases hdot : last = "."
  · rw [if_pos hdot] at h
    rw [List.filter_cons_of_neg (by simp [hdot]), ← Except.ok.inj h]
    exact ⟨rfl, Or.inl ⟨_, rfl⟩, fun loc hloc => absurd hloc List.not_mem_nil⟩
  · rw [if_neg hdot] at h
    rw [List.filter_cons_of_pos (by simpa using hdot), List.filter_nil, Location.entered,
      Location.entered, List.append_nil]
    by_cases hup : last = ".."
    · rw [if_pos hup] at h
      rw [if_pos hup, ← Except.ok.inj h]
      refine ⟨?_, Or.inl ⟨_, rfl⟩, fun loc hloc => absurd hloc List.not_mem_nil⟩
      rw [Location.follow, List.foldl_cons, List.foldl_nil, Location.enter, if_pos hup]
      rfl
    · rw [if_neg hup] at h
      split at h
      · exact absurd h (by simp)
      · have henter : Location.enter directory last = directory ++ [last] := if_neg hup
        rw [if_neg hup, Location.follow, List.foldl_cons, List.foldl_nil, henter,
          ← Except.ok.inj h]
        exact ⟨rfl, Or.inr List.mem_cons_self, fun loc hloc => List.mem_singleton.1 hloc⟩

/-- **A lookup ends where the path leads**, at a waypoint unless it ends in dots, and every other
waypoint is a directory. All that is used of lookups elsewhere is in these three. -/
theorem resolve_eq_ok {fs : FileSystem} {path : String} {ending : Ending}
    (h : fs.resolve path = .ok ending) :
    fs.locate path = ending.location ∧
      ((∃ directory, ending = .dots directory) ∨ ending.location ∈ fs.waypoints path) ∧
      ∀ loc ∈ fs.waypoints path, loc ≠ ending.location → fs.node? loc = some .directory := by
  simp only [resolve] at h
  split at h
  · exact absurd h (by simp)
  split at h
  · exact absurd h (by simp)
  split at h
  · exact absurd h (by simp)
  rw [locate, waypoints, steps_eq]
  split at h
  · rename_i hlast
    rw [List.getLast?_eq_none_iff.1 hlast, ← Except.ok.inj h]
    exact ⟨rfl, Or.inl ⟨_, rfl⟩, fun loc hloc => absurd hloc List.not_mem_nil⟩
  · rename_i last hlast
    split at h
    · exact absurd h (by simp)
    · rename_i directory hwalk
      obtain ⟨hfollow, hentered⟩ := walk_eq_ok hwalk
      obtain ⟨init, hinit⟩ := List.getLast?_eq_some_iff.1 hlast
      rw [hinit, List.dropLast_concat] at hfollow hentered
      change (fs.start path).follow _ = _ at hfollow
      change ∀ place ∈ (fs.start path).entered _, _ at hentered
      obtain ⟨hend, hreached, hlast⟩ := ending_of_last h
      -- the names but the last were walked; the last is the step that is left
      rw [hinit, List.filter_append, Location.follow_append, Location.entered_append, hfollow]
      refine ⟨hend, hreached.imp id (List.mem_append_right _), fun loc hloc hne => ?_⟩
      rcases List.mem_append.1 hloc with hloc | hloc
      · exact hentered loc hloc
      · exact absurd (hlast loc hloc) hne

theorem locate_of_resolve {fs : FileSystem} {path : String} {ending : Ending}
    (h : fs.resolve path = .ok ending) : fs.locate path = ending.location :=
  (resolve_eq_ok h).1

/-! ## The same directories -/

/-- **No directory is lost** from one file system to another. -/
structure KeepsDirectories (before after : FileSystem) : Prop where
  /-- Paths begin at the same place. -/
  working : after.working = before.working
  directory : ∀ loc, before.node? loc = some .directory → after.node? loc = some .directory

/-- **The same directories** in two file systems. What files there are may be quite different. -/
structure SameDirectories (a b : FileSystem) : Prop where
  forth : KeepsDirectories a b
  back : KeepsDirectories b a

theorem KeepsDirectories.refl (fs : FileSystem) : KeepsDirectories fs fs :=
  ⟨rfl, fun _ h => h⟩

theorem KeepsDirectories.trans {a b c : FileSystem} (hab : KeepsDirectories a b)
    (hbc : KeepsDirectories b c) : KeepsDirectories a c :=
  ⟨hbc.working.trans hab.working, fun loc h => hbc.directory loc (hab.directory loc h)⟩

theorem SameDirectories.refl (fs : FileSystem) : SameDirectories fs fs := ⟨.refl fs, .refl fs⟩

theorem SameDirectories.symm {a b : FileSystem} (h : SameDirectories a b) :
    SameDirectories b a := ⟨h.back, h.forth⟩

theorem SameDirectories.trans {a b c : FileSystem} (hab : SameDirectories a b)
    (hbc : SameDirectories b c) : SameDirectories a c :=
  ⟨hab.forth.trans hbc.forth, hbc.back.trans hab.back⟩

theorem SameDirectories.locate {a b : FileSystem} (h : SameDirectories a b) (path : String) :
    b.locate path = a.locate path :=
  locate_congr h.forth.working path

/-- Walking through directories leads to the same place. It is by induction on the names that are
left, and at each of them the walk asks for a directory that has been kept. -/
theorem KeepsDirectories.walk {before after : FileSystem} (h : KeepsDirectories before after)
    {names : List String} {loc directory : Location}
    (hwalk : before.walk loc names = .ok directory) : after.walk loc names = .ok directory := by
  induction names generalizing loc with
  | nil => exact hwalk
  | cons name rest ih =>
    rw [FileSystem.walk] at hwalk ⊢
    split at hwalk
    · rename_i hdot
      rw [if_pos hdot]
      exact ih hwalk
    · rename_i hdot
      rw [if_neg hdot]
      split at hwalk
      · rename_i hup
        rw [if_pos hup]
        exact ih hwalk
      · rename_i hup
        rw [if_neg hup]
        split at hwalk
        · exact absurd hwalk (by simp)
        · exact absurd hwalk (by simp)
        · exact absurd hwalk (by simp)
        · rename_i hname hnode
          rw [hname, h.directory _ hnode]
          exact ih hwalk

/-- **A lookup survives** as long as no directory is lost. What is asked of the path alone, and of
its last name, does not depend on the file system. -/
theorem KeepsDirectories.resolve {before after : FileSystem} (h : KeepsDirectories before after)
    {path : String} {ending : Ending} (hresolve : before.resolve path = .ok ending) :
    after.resolve path = .ok ending := by
  simp only [FileSystem.resolve] at hresolve ⊢
  rw [h.working]
  split at hresolve
  · exact absurd hresolve (by simp)
  split at hresolve
  · exact absurd hresolve (by simp)
  split at hresolve
  · exact absurd hresolve (by simp)
  rename_i hnul hempty hlong
  rw [if_neg hnul, if_neg hempty, if_neg hlong]
  split at hresolve
  · exact hresolve
  · split at hresolve
    · exact absurd hresolve (by simp)
    · rename_i hwalk
      rw [h.walk hwalk]
      exact hresolve

end FileSystem

end CatalogEntities
