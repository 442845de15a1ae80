import CatalogEntities.Failure
import CatalogEntities.Settings
import CatalogEntities.TlsMode

/-!
# `Settings/Validity.lean` — settings that a run can start with

The fields that must not be empty and the protection mode are checked in a fixed order, and the
first fault is reported. What `Settings.check` accepts is what `Settings.Valid` says.

There are two of them because two things are wanted of validity. A program needs a check that names
a fault, and the order of the checks is part of what it does. A statement needs the property, in
which there is no order. `check_eq_ok_iff` ties them together, and only the property is used after
that.
-/

set_option autoImplicit false

namespace CatalogEntities

theorem bind_eq_ok_iff {ε α β : Type} {x : Except ε α} {f : α → Except ε β} {b : β} :
    (x >>= f) = .ok b ↔ ∃ a, x = .ok a ∧ f a = .ok b := by
  cases x <;> simp [bind, Except.bind]

/-- The mode of database settings, if it is one of the four. -/
def DatabaseSettings.tlsMode (s : DatabaseSettings) : Except SettingsFault TlsMode :=
  match TlsMode.read? s.sslMode with
  | some mode => .ok mode
  | none => .error (.badTlsMode (Text.lowerText s.sslMode))

namespace Settings

def nonempty (text : String) (fault : SettingsFault) : Except SettingsFault Unit :=
  if text = "" then .error fault else .ok ()

/-- **Settings that a run can start with.** The password may be empty, and so may the list of
excluded tables and the suffix of references. -/
structure Valid (s : Settings) : Prop where
  host : s.database.host ≠ ""
  database : s.database.database ≠ ""
  user : s.database.user ≠ ""
  schema : s.database.schema ≠ ""
  tlsMode : (TlsMode.read? s.database.sslMode).isSome
  outputDir : s.generator.outputDir ≠ ""
  fileSuffix : s.generator.fileSuffix ≠ ""

/-- **Checks settings** (`validate`), and reports the first fault. The mode of protection is read
here and thrown away; whoever connects reads it again. -/
def check (s : Settings) : Except SettingsFault Unit := do
  nonempty s.database.host (.required "database.host")
  nonempty s.database.database (.required "database.database")
  nonempty s.database.user (.required "database.user")
  nonempty s.database.schema (.required "database.schema")
  let _ ← s.database.tlsMode
  nonempty s.generator.outputDir (.empty "generator.output_dir")
  nonempty s.generator.fileSuffix (.empty "generator.file_suffix")

/-- **The settings, if they are valid.** Every way of reading settings ends with this, so that there
is no way to get settings that have not been checked. -/
def checked (s : Settings) : Except Failure Settings :=
  match s.check with
  | .ok () => .ok s
  | .error fault => .error (.settings fault)

theorem nonempty_eq_ok_iff {text : String} {fault : SettingsFault} {u : Unit} :
    nonempty text fault = .ok u ↔ text ≠ "" := by
  unfold nonempty
  split <;> simp_all

theorem tlsMode_eq_ok_iff {d : DatabaseSettings} {mode : TlsMode} :
    d.tlsMode = .ok mode ↔ TlsMode.read? d.sslMode = some mode := by
  unfold DatabaseSettings.tlsMode
  split <;> simp_all

/-- **The check accepts exactly the valid settings.** -/
theorem check_eq_ok_iff {s : Settings} : s.check = .ok () ↔ s.Valid := by
  simp only [check, bind_eq_ok_iff, nonempty_eq_ok_iff, tlsMode_eq_ok_iff]
  constructor
  · rintro ⟨_, h1, _, h2, _, h3, _, h4, m, h5, _, h6, h7⟩
    exact ⟨h1, h2, h3, h4, by simp [h5], h6, h7⟩
  · rintro ⟨h1, h2, h3, h4, h5, h6, h7⟩
    obtain ⟨m, hm⟩ := Option.isSome_iff_exists.1 h5
    exact ⟨(), h1, (), h2, (), h3, (), h4, m, hm, (), h6, h7⟩

/-- What passes the check is handed on unchanged, and it is valid. -/
theorem checked_eq_ok_iff {s t : Settings} : s.checked = .ok t ↔ t = s ∧ s.Valid := by
  rw [← check_eq_ok_iff]
  unfold checked
  split
  · rename_i h
    simp [h, eq_comm]
  · rename_i fault h
    simp [h]

end Settings

end CatalogEntities
