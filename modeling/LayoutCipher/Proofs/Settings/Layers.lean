import LayoutCipher.Settings.Load

/-!
# Layers of settings

Loading reads two files, lays the environment over them and checks the level that comes out.  The
result is told here without the order of these steps: what is found at the two paths, the first
failure that applies, and for every setting the highest layer that sets it.
-/

namespace LayoutCipher.Settings

/-! ## Files -/

/-- What is found at the path of a settings file. -/
inductive Finding where
  | missing
  | broken (failure : Failure)
  | holding (settings : Settings)

namespace Finding

/-- The failure of a file that is there and cannot be used. -/
def failure? : Finding → Option Failure
  | .broken failure => some failure
  | _ => none

def settings : Finding → Settings
  | .holding settings => settings
  | _ => unset

/-- What comes of a file that may be missing. -/
def outcome : Finding → Except Failure Settings
  | .missing => .ok unset
  | .broken failure => .error failure
  | .holding settings => .ok settings

theorem outcome_eq (finding : Finding) :
    finding.outcome = finding.failure?.elim (.ok finding.settings) .error := by
  cases finding <;> rfl

theorem failure?_eq_some_iff {finding : Finding} {failure : Failure} :
    finding.failure? = some failure ↔ finding = .broken failure := by
  cases finding <;> simp [failure?]

end Finding

def unreadable (path reason : String) : Failure :=
  ⟨.configuration (some path), 1004, "Failed to read configuration: " ++ reason, [reason]⟩

def unparsable (path complaint : String) : Failure :=
  ⟨.configuration (some path), 1002, "Failed to parse configuration: " ++ complaint, [complaint]⟩

def find (files : FileSystem) (path : String) : Finding :=
  match files path with
  | .absent => .missing
  | .unreadable reason => .broken (unreadable path reason)
  | .bytes content complaint =>
      match String.fromUTF8? content with
      | none => .broken (unreadable path "stream did not contain valid UTF-8")
      | some text =>
          match ofDocument? text with
          | none => .broken (unparsable path complaint)
          | some settings => .holding settings

section

variable {files : FileSystem} {path : String} {failure : Failure}

theorem find_eq_missing_iff : find files path = .missing ↔ (files path).exists = false := by
  unfold find
  cases files path with
  | absent => simp
  | unreadable reason => simp
  | bytes content complaint =>
      simp only [FileState.exists_bytes, Bool.true_eq_false, iff_false]
      split
      · simp
      · split <;> simp

theorem area_and_code_of_failure? (broken : (find files path).failure? = some failure) :
    failure.area = .configuration (some path) ∧ (failure.code = 1002 ∨ failure.code = 1004) := by
  have found := Finding.failure?_eq_some_iff.mp broken
  unfold find at found
  split at found
  · cases found
  · cases found
    exact ⟨rfl, .inr rfl⟩
  · split at found
    · cases found
      exact ⟨rfl, .inr rfl⟩
    · split at found
      · cases found
        exact ⟨rfl, .inl rfl⟩
      · cases found

theorem outcome_loadFile {read : Except String SettingsText}
    (present : (files path).read? = some read) :
    (loadFile path read).outcome = (find files path).outcome := by
  unfold find
  -- reading and parsing fail in the order in which `find` looks at the content
  cases state : files path with
  | absent => rw [state] at present; cases present
  | unreadable reason => rw [state] at present; cases present; rfl
  | bytes content complaint =>
      rw [state] at present
      simp only [FileState.read?] at present
      cases decoded : String.fromUTF8? content with
      | none =>
          rw [decoded] at present
          cases present
          simp only [decoded]
          rfl
      | some text =>
          rw [decoded] at present
          cases present
          have kept (restate : String → Failure) :
              (Except.ok (SettingsText.mk text complaint)).mapError restate = .ok _ := rfl
          simp only [loadFile, Logged.outcome_bind, Logged.outcome_emit, Logged.outcome_ofExcept,
            decoded]
          simp only [kept, bind, Except.bind]
          cases ofDocument? text <;> rfl

theorem outcome_loadIfPresent :
    (loadIfPresent path (files path)).outcome = (find files path).outcome := by
  unfold loadIfPresent
  split
  · next read present => exact outcome_loadFile present
  · next absent => rw [find_eq_missing_iff.mpr (by simp [FileState.exists, absent])]; rfl

theorem outcome_loadExplicit :
    (loadExplicit path (files path)).outcome =
      if (files path).exists then (find files path).outcome
      else .error (.configuration 1001 "Configuration file does not exist" (some path)) := by
  unfold loadExplicit FileState.exists
  split
  · next read present => rw [present, outcome_loadFile present]; rfl
  · next absent => rw [absent]; rfl

end

/-! ## Layers -/

/-- What is found at the path of the global file, if there is a place for one. -/
def findGlobal (files : FileSystem) (places : Places) : Finding :=
  places.globalFile.elim .missing (find files)

/-- What is found at the path of the file laid over the global one. -/
def findUpper (files : FileSystem) (places : Places) : Finding :=
  find files (places.explicitFile.getD places.projectFile)

/-- The failure of a file that was asked for and is not there. -/
def notFound? (files : FileSystem) (places : Places) : Option Failure :=
  places.explicitFile.bind fun path =>
    if (files path).exists then none
    else some ⟨.configuration (some path), 1001, "Configuration file does not exist", []⟩

/-- The failure of a level that is none of the five in lower case. -/
def badLevel? (level : Option String) : Option Failure :=
  level.bind fun name =>
    if Text.lower name ∈ ["trace", "debug", "info", "warn", "error"] then none
    else some ⟨.configuration none, 1003, "Invalid log_level '" ++ name ++
      "'. Expected one of: trace, debug, info, warn, error", []⟩

/-- The value of the highest layer that sets one; an empty variable sets none. -/
def winner (exported upper lower : Option String) : Option String :=
  (exported.filter (· ≠ "")).or (upper.or lower)

/-- The level of the highest layer that sets one. -/
def winningLevel (files : FileSystem) (places : Places) (environment : Environment) :
    Option String :=
  winner (environment "KEYCIPHER_LOG_LEVEL") (findUpper files places).settings.logLevel
    (findGlobal files places).settings.logLevel

/-- The default cipher of the highest layer that sets one. -/
def winningCipher (files : FileSystem) (places : Places) (environment : Environment) :
    Option String :=
  winner (environment "KEYCIPHER_CIPHER") (findUpper files places).settings.defaultCipher
    (findGlobal files places).settings.defaultCipher

/-- The rows of the upper file that sets some; the environment sets none. -/
def winningRows (files : FileSystem) (places : Places) : Option (List String) :=
  (findUpper files places).settings.layoutRows.or (findGlobal files places).settings.layoutRows

section

variable {files : FileSystem} {places : Places} {environment : Environment}

theorem validate_eq (settings : Settings) :
    settings.validate = (badLevel? settings.logLevel).elim (.ok ()) .error := by
  have listed : "'. Expected one of: " ++ ", ".intercalate LogLevel.names =
      "'. Expected one of: trace, debug, info, warn, error" := by decide
  unfold validate badLevel?
  cases settings.logLevel with
  | none => rfl
  | some level =>
      rw [Option.bind_some]
      by_cases known : Text.lower level ∈ LogLevel.names
      · have known' : Text.lower level ∈ ["trace", "debug", "info", "warn", "error"] := known
        simp only [known, known', if_true, Option.elim_none]
      · have known' : Text.lower level ∉ ["trace", "debug", "info", "warn", "error"] := known
        simp only [known, known', if_false, Option.elim_some, Failure.configuration,
          String.append_assoc, listed]

theorem outcome_global :
    (loadGlobal files places.globalFile).outcome =
      (findGlobal files places).failure?.elim (.ok (findGlobal files places).settings)
        .error := by
  rw [← Finding.outcome_eq]
  unfold loadGlobal findGlobal
  cases places.globalFile with
  | none => rfl
  | some path => exact outcome_loadIfPresent

/-- The upper file is the only one that has to exist, and only if it was asked for. -/
theorem outcome_upper :
    (loadUpper files places).outcome =
      ((notFound? files places).or (findUpper files places).failure?).elim
        (.ok (findUpper files places).settings) .error := by
  unfold loadUpper notFound? findUpper
  cases places.explicitFile with
  | none => exact outcome_loadIfPresent.trans (Finding.outcome_eq _)
  | some path =>
      rw [Option.bind_some, Option.getD_some]
      refine outcome_loadExplicit.trans ?_
      split
      · rw [Finding.outcome_eq, Option.none_or]
      · rfl

/-- Layers fail in their order, and the level that comes out is looked at last. -/
theorem outcome_loadLayers (lower upper : Logged Failure Settings) (environment : Environment) :
    (loadLayers lower upper environment).outcome = (do
      let base ← lower.outcome
      let upper ← upper.outcome
      let settings := (base.merge upper).mergeEnvironment environment
      settings.validate
      return settings) := by
  simp only [loadLayers, Logged.outcome_bind, Logged.outcome_ofExcept, Logged.outcome_pure]
  rfl

theorem mergeEnvironment_merge_eq :
    ((findGlobal files places).settings.merge
        (findUpper files places).settings).mergeEnvironment environment =
      ⟨winningLevel files places environment, winningCipher files places environment,
        winningRows files places⟩ :=
  rfl

theorem outcome_load :
    (load files places environment).outcome =
      ((findGlobal files places).failure?.or ((notFound? files places).or
        ((findUpper files places).failure?.or
          (badLevel? (winningLevel files places environment))))).elim
        (.ok ⟨winningLevel files places environment, winningCipher files places environment,
          winningRows files places⟩) .error := by
  simp only [load, outcome_loadLayers, outcome_global, outcome_upper, validate_eq]
  -- the missing file and the broken one are two failures of the same stage
  rw [← @Option.or_assoc _ (notFound? files places)]
  -- stage by stage: what fails first ends the loading
  cases (findGlobal files places).failure? with
  | some failure => rfl
  | none =>
      rw [Option.none_or]
      cases (notFound? files places).or (findUpper files places).failure? with
      | some failure => rfl
      | none =>
          simp only [Option.elim_none, bind, Except.bind, mergeEnvironment_merge_eq,
            Option.none_or]
          cases badLevel? (winningLevel files places environment) <;> rfl

/-! ## What loading depends on -/

theorem loadGlobal_congr {other : FileSystem} {globalFile : Option String}
    (same : ∀ path, globalFile = some path → other path = files path) :
    loadGlobal other globalFile = loadGlobal files globalFile := by
  cases globalFile with
  | none => rfl
  | some path => exact congrArg (loadIfPresent path) (same path rfl)

/-- A file that was asked for is the only one that is looked at. -/
theorem loadUpper_congr {other : FileSystem} {path : String} (projectFile : String)
    (asked : places.explicitFile = some path) (same : other path = files path) :
    loadUpper other { places with projectFile } = loadUpper files places := by
  simp only [loadUpper, asked, same]

theorem code_of_findGlobal_failure? {failure : Failure}
    (broken : (findGlobal files places).failure? = some failure) :
    failure.code = 1002 ∨ failure.code = 1004 := by
  unfold findGlobal at broken
  cases globalFile : places.globalFile with
  | none => rw [globalFile] at broken; cases broken
  | some path =>
      rw [globalFile] at broken
      exact (area_and_code_of_failure? broken).2

theorem code_of_notFound? {failure : Failure}
    (missing : notFound? files places = some failure) : failure.code = 1001 := by
  unfold notFound? at missing
  obtain ⟨path, _, refused⟩ := Option.bind_eq_some_iff.mp missing
  split at refused
  · cases refused
  · cases refused
    rfl

theorem badLevel?_of_code_eq {failure : Failure}
    (failed : (load files places environment).outcome = .error failure)
    (code : failure.code = 1003) :
    badLevel? (winningLevel files places environment) = some failure := by
  rw [outcome_load] at failed
  -- the failures in front of the level's have other numbers
  cases lower : (findGlobal files places).failure? with
  | some broken =>
      obtain rfl : broken = failure := by simpa [lower] using failed
      rcases code_of_findGlobal_failure? lower with other | other <;> omega
  | none =>
      cases absent : notFound? files places with
      | some missing =>
          obtain rfl : missing = failure := by simpa [lower, absent] using failed
          have other := code_of_notFound? absent
          omega
      | none =>
          cases upper : (findUpper files places).failure? with
          | some broken =>
              obtain rfl : broken = failure := by simpa [lower, absent, upper] using failed
              rcases (area_and_code_of_failure? upper).2 with other | other <;> omega
          | none =>
              rw [lower, absent, upper, Option.none_or, Option.none_or, Option.none_or] at failed
              cases bad : badLevel? (winningLevel files places environment) with
              | none => rw [bad] at failed; cases failed
              | some refused => rw [bad] at failed; cases failed; rfl

end

/-- Loading ends with the first failure that applies: of the global file, of a file that was asked
for and is not there, of the upper file, of the level.  Without one, every setting is that of the
highest layer that sets it.  The failure of a file names the file.  The project's file plays no
part once another one is asked for, and only the level of the highest layer can be refused. -/
theorem load_first_applicable (files : FileSystem) (places : Places) (environment : Environment) :
    (load files places environment).outcome =
      ((findGlobal files places).failure?.or ((notFound? files places).or
        ((findUpper files places).failure?.or
          (badLevel? (winningLevel files places environment))))).elim
        (.ok ⟨winningLevel files places environment, winningCipher files places environment,
          winningRows files places⟩) .error ∧
    (∀ path failure, (find files path).failure? = some failure →
      failure.area = .configuration (some path) ∧
        (failure.code = 1002 ∨ failure.code = 1004)) ∧
    (∀ path, places.explicitFile = some path → ∀ (other : FileSystem) (projectFile : String),
      other path = files path →
      (∀ lower, places.globalFile = some lower → other lower = files lower) →
      load other { places with projectFile } environment = load files places environment) ∧
    ∀ failure, (load files places environment).outcome = .error failure →
      failure.code = 1003 → badLevel? (winningLevel files places environment) = some failure := by
  refine ⟨outcome_load, fun _ _ => area_and_code_of_failure?, ?_, fun _ => badLevel?_of_code_eq⟩
  intro path asked other projectFile same sameGlobal
  unfold load
  rw [loadGlobal_congr sameGlobal, loadUpper_congr projectFile asked same]

/-- A global file with an unknown level, a file that corrects it, and a project file that nobody may
read. -/
def sampleFiles (path : String) : FileState :=
  if path = "/global" then .bytes "log_level = \"loud\"\ndefault_cipher = \"H\"".toUTF8
  else if path = "/asked" then .bytes "log_level = \"WARN\"".toUTF8
  else if path = "/project" then .unreadable "permission denied"
  else .absent

/-- A run that asks for the file with the known level. -/
def samplePlaces : Places :=
  ⟨some "/global", some "/asked", "/project"⟩

/-- The failure of the level `quiet`. -/
def quietFailure : Failure :=
  ⟨.configuration none, 1003,
    "Invalid log_level 'quiet'. Expected one of: trace, debug, info, warn, error", []⟩

theorem find_of_eq_bytes {files : FileSystem} {path text : String} {settings : Settings}
    (written : files path = .bytes text.toUTF8) (parsed : ofDocument? text = some settings) :
    find files path = .holding settings := by
  have decoded : String.fromUTF8? text.toUTF8 = some text := dif_pos text.isValidUTF8
  unfold find
  rw [written]
  simp only [decoded, parsed]

/-- The unknown level of the global file does no harm below a known one, and the project's file
none beside one that was asked for.  An unknown level in the environment is refused. -/
theorem load_first_applicable_sample :
    (load sampleFiles samplePlaces fun _ => some "").outcome = .ok ⟨some "WARN", some "H", none⟩ ∧
      (find sampleFiles "/project").failure?.map Failure.area =
        some (.configuration (some "/project")) ∧
      load (fun path => if path = "/project" then .absent else sampleFiles path)
          { samplePlaces with projectFile := "/elsewhere" } (fun _ => some "quiet") =
        load sampleFiles samplePlaces (fun _ => some "quiet") ∧
      (load sampleFiles samplePlaces fun _ => some "quiet").outcome = .error quietFailure ∧
      badLevel? (some "quiet") = some quietFailure := by
  have lower : find sampleFiles "/global" = .holding ⟨some "loud", some "H", none⟩ :=
    find_of_eq_bytes rfl (by decide +kernel)
  have upper : find sampleFiles "/asked" = .holding ⟨some "WARN", none, none⟩ :=
    find_of_eq_bytes rfl (by decide +kernel)
  have found : findGlobal sampleFiles samplePlaces = _ := lower
  have found' : findUpper sampleFiles samplePlaces = _ := upper
  have present : notFound? sampleFiles samplePlaces = none := rfl
  have denied : (find sampleFiles "/project").failure? =
      some (unreadable "/project" "permission denied") := rfl
  have known : badLevel? (some "WARN") = none := by decide +kernel
  have unknown : badLevel? (some "quiet") = some quietFailure := by decide +kernel
  obtain ⟨accepted, broken, _, _⟩ :=
    load_first_applicable sampleFiles samplePlaces fun _ => some ""
  obtain ⟨failed, _, independent, blamed⟩ :=
    load_first_applicable sampleFiles samplePlaces fun _ => some "quiet"
  have refused : (load sampleFiles samplePlaces fun _ => some "quiet").outcome =
      .error quietFailure := by
    rw [failed, winningLevel, found, found', present]
    change ((none.or (none.or (none.or (badLevel? (some "quiet"))))).elim _ _) = _
    rw [unknown]
    rfl
  refine ⟨?_, ?_, ?_, refused, blamed quietFailure refused rfl⟩
  · rw [accepted, winningLevel, winningCipher, winningRows, found, found', present]
    change ((none.or (none.or (none.or (badLevel? (some "WARN"))))).elim _ _) = _
    rw [known]
    rfl
  · rw [denied]
    exact congrArg some (broken _ _ denied).1
  · refine independent "/asked" rfl _ "/elsewhere" rfl ?_
    rintro _ ⟨⟩
    rfl

end LayoutCipher.Settings
