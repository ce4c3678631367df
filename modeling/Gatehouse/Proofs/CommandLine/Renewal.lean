import Gatehouse.CommandLine.Run
import Gatehouse.Proofs.Settings.File
/-!
# Writing the settings file anew — which files it repairs

Resetting the settings and creating them by force write the defaults over whatever the file holds.  But the settings
are loaded from that very file first.  So a file that gives settings is written anew (`run_of_readable`), and from any
other the command ends with an error about the file and leaves it as it is (`run_of_unreadable`).
-/
namespace Gatehouse
namespace CommandLine

variable {h : Host} {words : List String} {path old : String} {given : Option String} {c : Command}

/-- A command that writes the settings file, whether there is one or not. -/
def Command.Renews : Command → Prop
  | .create force => force = true
  | .settings .reset => True
  | _ => False

/-- Words that ask for a new settings file in place of one with a text, on a host without variables that override
settings. -/
structure Renewal (h : Host) (words : List String) (path old : String) : Prop where
  asked : ∃ i, Invocation.read words = .ok i ∧ i.command.Renews ∧ Settings.filePath h i.file = .ok path
  file : h.disk.look h.directory path = .ok (.text old)
  unset : Settings.Unoverridden h

theorem exists_parent_of_filePath (h' : Settings.filePath h given = .ok path) :
    ∃ parent, Disk.parent? path = some parent := by
  unfold Settings.filePath at h'
  dsimp only at h'
  split at h'
  · cases h'
  · split at h'
    · cases h'
    · rename_i hparent
      cases h'
      exact Option.ne_none_iff_exists'.1 fun hnone => hparent (by rw [hnone]; rfl)

/-! ## Writing the defaults -/

/-- **The defaults take the place of a text in its file.** -/
theorem reset_of_look (hparent : ∃ parent, Disk.parent? path = some parent)
    (hfile : h.disk.look h.directory path = .ok (.text old)) : ∃ disk, reset h path = (.ok "", withDisk h disk) ∧
      disk.look h.directory path = .ok (.text (Settings.defaultText path)) := by
  obtain ⟨parent, hparent⟩ := hparent
  obtain ⟨place, hplace, -, -⟩ := Disk.look_eq_text_iff.1 hfile
  obtain ⟨disk, hwrite, hlook⟩ := Disk.writeText_of_look hfile (Settings.defaultText path)
  refine ⟨disk, ?_, hlook⟩
  have hdefaults : Settings.writeDefaults h path = .ok disk := by
    unfold Settings.writeDefaults
    simp only [hparent, Option.getD_some, Disk.createDirectories_of_resolve hparent hplace, hwrite]
  unfold reset
  rw [hdefaults]

theorem runCommand_of_renews (hrenews : c.Renews) (h : Host) (path : String) (s : Settings) (format : Format) :
    runCommand h path s format c = (reset h path).map .ofExcept id := by
  cases c with
  | create force =>
    obtain rfl : force = true := hrenews
    have hforced : create h path true = reset h path := by
      unfold create
      rw [Bool.not_true, Bool.and_false, if_neg Bool.false_ne_true]
    exact congrArg (Prod.map Outcome.ofExcept id) hforced
  | settings c =>
    cases c with
    | reset => rfl
    | _ => exact absurd hrenews id
  | _ => exact absurd hrenews id

/-! ## Running the command -/

theorem Renewal.run_eq (hr : Renewal h words path old) : run h words = match Settings.load h path with
    | .error e => (.failed (.file e), h)
    | .ok _ => (reset h path).map .ofExcept id := by
  obtain ⟨i, hread, hrenews, hpath⟩ := hr.asked
  unfold run invoke
  rw [hread]
  dsimp only
  rw [hpath]
  dsimp only
  cases Settings.load h path with
  | error e => rfl
  | ok s => exact runCommand_of_renews hrenews h path s i.format

theorem run_of_readable (hr : Renewal h words path old) {s : Settings} (hs : Settings.ofText? old = some s) :
    ∃ disk, run h words = (.printed "", withDisk h disk) ∧
      disk.look h.directory path = .ok (.text (Settings.defaultText path)) := by
  obtain ⟨i, -, -, hpath⟩ := hr.asked
  obtain ⟨disk, hreset, hlook⟩ := reset_of_look (exists_parent_of_filePath hpath) hr.file
  refine ⟨disk, ?_, hlook⟩
  rw [hr.run_eq, Settings.load_of_look hr.file hr.unset, hs, hreset]
  rfl

/-- **From a file that gives no settings, nothing is written.** -/
theorem run_of_unreadable (hr : Renewal h words path old) (hnone : Settings.ofText? old = none) :
    run h words =
      (.failed (.file (if (Toml.parse? old.toList).isSome then .decode path else .load path)), h) := by
  rw [hr.run_eq, Settings.load_of_look hr.file hr.unset, hnone]

theorem run_of_malformed (hr : Renewal h words path old) (hnone : Toml.parse? old.toList = none) :
    run h words = (.failed (.file (.load path)), h) := by
  rw [run_of_unreadable hr (by rw [Settings.ofText?, hnone]; rfl), hnone]
  rfl

/-- **Which settings files are repaired.**  A command that is to write the settings file anew succeeds exactly from
those that give settings.  Then the file holds the text of the defaults, and, if its path fits on a line, the defaults
are what is loaded from it.  From every other file, no TOML or with values of a wrong type, the command ends with an
error about the file, and the host is as it was. -/
theorem renewed_iff (hr : Renewal h words path old) :
    ((run h words).1.code = 0 ↔ (Settings.ofText? old).isSome = true) ∧
      ((Settings.ofText? old).isSome = true → ∃ disk, run h words = (.printed "", withDisk h disk) ∧
        disk.look h.directory path = .ok (.text (Settings.defaultText path)) ∧
        (Toml.IsLine path.toList → Settings.load (withDisk h disk) path = .ok Settings.defaults)) ∧
      (Settings.ofText? old = none → run h words =
        (.failed (.file (if (Toml.parse? old.toList).isSome then .decode path else .load path)), h)) := by
  refine ⟨?_, fun hsome => ?_, run_of_unreadable hr⟩
  · cases hs : Settings.ofText? old with
    | none =>
      rw [run_of_unreadable hr hs]
      exact iff_of_false Nat.one_ne_zero Bool.false_ne_true
    | some s =>
      obtain ⟨disk, hrun, -⟩ := run_of_readable hr hs
      rw [hrun]
      exact iff_of_true rfl rfl
  · obtain ⟨s, hs⟩ := Option.isSome_iff_exists.1 hsome
    obtain ⟨disk, hrun, hlook⟩ := run_of_readable hr hs
    refine ⟨disk, hrun, hlook, fun hpath => ?_⟩
    have hunset : Settings.Unoverridden (withDisk h disk) := hr.unset
    rw [Settings.load_of_look (h := withDisk h disk) hlook hunset, Settings.ofText?_defaultText hpath]

/-! ## A file that is repaired, and one that is not -/

/-- A host with a settings file and nothing else. -/
def hostOf (content : String) : Host := ⟨SortedMap.empty, Disk.empty.put ["c.toml"] (.text content), "/"⟩

theorem renewal_hostOf {words : List String} {format : Format} {c : Command} (hrenews : c.Renews)
    (hread : (Invocation.read words).toOption = some ⟨some "/c.toml", format, c⟩) (content : String) :
    Renewal (hostOf content) words "/c.toml" content where
  asked := by
    refine ⟨_, toOption_eq_some_iff.1 hread, hrenews, ?_⟩
    have hexpand : (hostOf content).expand? "/c.toml" = some "/c.toml" := rfl
    have hfile : (hostOf content).disk.isDirectory (hostOf content).directory "/c.toml" = false := rfl
    have hparent : (Disk.parent? "/c.toml").isNone = false := by decide +kernel
    unfold Settings.filePath
    simp only [hexpand, hfile, hparent, Option.map_some, Bool.false_eq_true, if_false]
  file := rfl
  unset := fun e he => nomatch he

/-- Creating by force repairs a file that logs too much. -/
theorem renewed_of_logging : ∃ disk,
    run (hostOf "[logging]\nlevel = \"trace\"\n") ["init", "--force", "--config", "/c.toml"] =
        (.printed "", withDisk (hostOf "[logging]\nlevel = \"trace\"\n") disk) ∧
      Settings.load (withDisk (hostOf "[logging]\nlevel = \"trace\"\n") disk) "/c.toml" = .ok Settings.defaults := by
  have hread : (Invocation.read ["init", "--force", "--config", "/c.toml"]).toOption =
      some ⟨some "/c.toml", .plain, .create true⟩ := by decide +kernel
  have hr := renewal_hostOf (c := .create true) rfl hread "[logging]\nlevel = \"trace\"\n"
  obtain ⟨disk, hrun, -, hload⟩ := (renewed_iff hr).2.1 (by decide +kernel)
  exact ⟨disk, hrun, hload (Toml.isLine_of_all (by decide +kernel))⟩

/-- **A reset does not repair a file that is no TOML**: it ends with an error and changes nothing. -/
theorem broken_not_renewed :
    run (hostOf "broken =") ["--config", "/c.toml", "config", "reset"] =
        (.failed (.file (.load "/c.toml")), hostOf "broken =") ∧
      Renewal (hostOf "broken =") ["--config", "/c.toml", "config", "reset"] "/c.toml" "broken =" := by
  have hread : (Invocation.read ["--config", "/c.toml", "config", "reset"]).toOption =
      some ⟨some "/c.toml", .plain, .settings .reset⟩ := by decide +kernel
  have hr := renewal_hostOf (c := .settings .reset) trivial hread "broken ="
  have hbroken : Toml.parse? "broken =".toList = none := Option.isNone_iff_eq_none.1 (by decide +kernel)
  exact ⟨run_of_malformed hr hbroken, hr⟩

end CommandLine
end Gatehouse
