import LayoutCipher.Proofs.Settings.Layers
import LayoutCipher.Proofs.Text.Lower

/-!
# Accepted levels and used levels

The check of the settings and the choice of a level for a run both look at a configured level in
lower case, by the full mapping.  What the check accepts are nevertheless the five names in ASCII
letters only, and each of them is the level that is used.
-/

namespace LayoutCipher.Settings

variable {files : FileSystem} {places : Places} {environment : Environment} {settings : Settings}
  {level : String}

theorem plain_of_mem_names : ∀ name ∈ LogLevel.names, ∀ d ∈ name.toList, Text.Plain d := by
  simp [LogLevel.names, Text.Plain]

theorem lower_mem_names_iff :
    Text.lower level ∈ LogLevel.names ↔ level.toLower ∈ LogLevel.names := by
  constructor
  · intro known
    rwa [(Text.lower_eq_iff (plain_of_mem_names _ known) level).mp rfl]
  · intro known
    rwa [(Text.lower_eq_iff (plain_of_mem_names _ known) level).mpr rfl]

theorem validate_eq_ok_iff :
    settings.validate = .ok () ↔
      ∀ level, settings.logLevel = some level → level.toLower ∈ LogLevel.names := by
  simp only [← lower_mem_names_iff]
  unfold validate
  cases settings.logLevel with
  | none => simp
  | some level => by_cases known : Text.lower level ∈ LogLevel.names <;> simp [known]

theorem elim_eq_ok_iff {ε α : Type} {failure? : Option ε} {value result : α} :
    failure?.elim (.ok value) .error = (.ok result : Except ε α) ↔
      failure? = none ∧ value = result := by
  cases failure? <;> simp

/-- Only settings that pass the check are loaded. -/
theorem validate_of_outcome_load_eq_ok
    (loaded : (load files places environment).outcome = .ok settings) :
    settings.validate = .ok () := by
  rw [outcome_load, elim_eq_ok_iff] at loaded
  obtain ⟨faultless, rfl⟩ := loaded
  simp only [Option.or_eq_none_iff] at faultless
  rw [validate_eq, faultless.2.2.2]
  rfl

theorem resolve_mem_names (accepted : settings.validate = .ok ()) (verbosity : Nat) :
    LogLevel.resolve verbosity settings.logLevel ∈ LogLevel.names := by
  rw [validate_eq_ok_iff] at accepted
  rcases verbosity with _ | _ | n
  · cases configured : settings.logLevel with
    | none => decide
    | some level => exact lower_mem_names_iff.mpr (accepted level configured)
  · simp [LogLevel.resolve, LogLevel.ofVerbosity, LogLevel.names]
  · simp [LogLevel.resolve, LogLevel.ofVerbosity, LogLevel.names]

/-- The check of the settings accepts the five names, with letters of either case in ASCII only,
and without flags such a name is the level that is used.  Settings that were loaded lead to one of
the five names at every verbosity, and with flags the configured level plays no part. -/
theorem validate_and_resolve_agree :
    LogLevel.names = ["trace", "debug", "info", "warn", "error"] ∧
    (∀ (settings : Settings) (level : String),
      { settings with logLevel := some level }.validate = .ok () ↔
        level.toLower ∈ LogLevel.names) ∧
    (∀ level : String, level.toLower ∈ LogLevel.names →
      (∀ c ∈ level.toList, c.toNat < 0x80) ∧ LogLevel.resolve 0 (some level) = level.toLower) ∧
    (∀ files places environment settings, (load files places environment).outcome = .ok settings →
      ∀ verbosity, LogLevel.resolve verbosity settings.logLevel ∈ LogLevel.names) ∧
    ∀ verbosity configured configured', 1 ≤ verbosity →
      LogLevel.resolve verbosity configured = LogLevel.resolve verbosity configured' := by
  refine ⟨rfl, fun settings level => by simp [validate_eq_ok_iff], fun level known => ?_,
    fun files places environment settings loaded =>
      resolve_mem_names (validate_of_outcome_load_eq_ok loaded), ?_⟩
  · have plain := plain_of_mem_names _ known
    exact ⟨Text.ascii_of_plain_toLower plain, (Text.lower_eq_iff plain level).mpr rfl⟩
  · intro verbosity configured configured' flagged
    obtain ⟨n, rfl⟩ := Nat.exists_eq_succ_of_ne_zero (Nat.ne_of_gt flagged)
    rfl

/-- A level in mixed case is accepted and used, one with a dotted capital is not.  A level that the
environment sets is loaded, and counts no more beside two flags. -/
theorem validate_and_resolve_agree_mixed :
    "WaRn".toLower ∈ LogLevel.names ∧ LogLevel.resolve 0 (some "WaRn") = "warn" ∧
      Settings.validate ⟨some "İnfo", none, none⟩ ≠ .ok () ∧
      (load (fun _ => .absent) ⟨none, none, "/project"⟩ fun _ => some "Error").outcome =
        .ok ⟨some "Error", some "Error", none⟩ ∧
      LogLevel.resolve 0 (some "Error") ∈ LogLevel.names ∧
      1 ≤ 2 ∧ LogLevel.resolve 2 (some "Error") = LogLevel.resolve 2 none := by
  have known : "WaRn".toLower ∈ LogLevel.names := by decide +kernel
  have dotted : "İnfo".toLower ∉ LogLevel.names := by decide +kernel
  have accepted : badLevel? (winningLevel (fun _ => .absent) ⟨none, none, "/project"⟩
      fun _ => some "Error") = none := by decide +kernel
  have loaded : (load (fun _ => .absent) ⟨none, none, "/project"⟩ fun _ => some "Error").outcome =
      .ok ⟨some "Error", some "Error", none⟩ := by
    rw [outcome_load, accepted]
    rfl
  obtain ⟨_, accepts, uses, resolves, ignores⟩ := validate_and_resolve_agree
  refine ⟨known, ?_, fun passed => dotted ((accepts unset "İnfo").mp passed), loaded,
    resolves _ _ _ _ loaded 0, Nat.le_succ 1, ignores 2 _ _ (Nat.le_succ 1)⟩
  rw [(uses "WaRn" known).2]
  decide +kernel

end LayoutCipher.Settings
