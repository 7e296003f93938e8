import LayoutCipher.Settings.Document

/-!
# Loading settings

The settings of a run are laid over each other: a global file, then the file that was asked for
or else the file of the project, then the environment.  A file that was asked for has to exist;
the others may be missing.
-/

namespace LayoutCipher

inductive FileState where
  | absent
  /-- Something that cannot be read, and the reason. -/
  | unreadable (reason : String)
  /-- Something that can be read, and what the parser of documents says against the text in it if
  it is none. -/
  | bytes (content : ByteArray) (complaint : String := "")

/-- A text that was read as a document, and the complaint of the parser if it is none. -/
structure SettingsText where
  text : String
  complaint : String

/-- What reading leads to, if there is something to read: a text, or the reason why there is none. -/
def FileState.read? : FileState → Option (Except String SettingsText)
  | .absent => none
  | .unreadable reason => some (.error reason)
  | .bytes content complaint =>
      match String.fromUTF8? content with
      | some text => some (.ok ⟨text, complaint⟩)
      | none => some (.error "stream did not contain valid UTF-8")

def FileState.exists (state : FileState) : Bool :=
  state.read?.isSome

@[simp]
theorem FileState.exists_absent : FileState.absent.exists = false :=
  rfl

@[simp]
theorem FileState.exists_unreadable (reason : String) : (FileState.unreadable reason).exists :=
  rfl

@[simp]
theorem FileState.exists_bytes (content : ByteArray) (complaint : String) :
    (FileState.bytes content complaint).exists := by
  simp only [FileState.exists, FileState.read?]
  split <;> rfl

abbrev FileSystem :=
  String → FileState

/-- A path behind a directory; an absolute path stands for itself. -/
def joinPath (directory name : String) : String :=
  if name.startsWith "/" || directory = "" then name
  else if directory.endsWith "/" then directory ++ name
  else directory ++ "/" ++ name

namespace Settings

/-- The settings that were read at a path. -/
def loadFile (path : String) (read : Except String SettingsText) : Logged Failure Settings := do
  Logged.emit (.settingsFileOpened path)
  let document ← Logged.ofExcept <| read.mapError fun reason =>
    (Failure.configuration 1004 ("Failed to read configuration: " ++ reason)
      (some path)).withSources [reason]
  match ofDocument? document.text with
  | some settings => return settings
  | none =>
      Logged.ofExcept <| .error <|
        (Failure.configuration 1002 ("Failed to parse configuration: " ++ document.complaint)
          (some path)).withSources [document.complaint]

/-- The settings of a file that may be missing. -/
def loadIfPresent (path : String) (state : FileState) : Logged Failure Settings :=
  match state.read? with
  | some read => loadFile path read
  | none => pure unset

/-- The settings of a file that was asked for. -/
def loadExplicit (path : String) (state : FileState) : Logged Failure Settings :=
  match state.read? with
  | some read => loadFile path read
  | none =>
      Logged.ofExcept <| .error <|
        .configuration 1001 "Configuration file does not exist" (some path)

/-- Lays the settings of two files and those of the environment over each other. -/
def loadLayers (lower upper : Logged Failure Settings) (environment : Environment) :
    Logged Failure Settings := do
  let base ← lower
  let upper ← upper
  -- only the level that wins is looked at; one that is overridden may be anything
  let settings := (base.merge upper).mergeEnvironment environment
  Logged.ofExcept settings.validate
  return settings

/-- The settings of the global file, if there is a place for one. -/
def loadGlobal (files : FileSystem) (globalFile : Option String) : Logged Failure Settings :=
  match globalFile with
  | some path => loadIfPresent path (files path)
  | none => pure unset

/-- Where the settings of a run are looked for. -/
structure Places where
  /-- The global file, if there is a place for one. -/
  globalFile : Option String
  /-- The file that takes the place of the project's, if one was asked for. -/
  explicitFile : Option String
  projectFile : String

/-- The settings of the file laid over the global one: the file that was asked for, or else that of
the project. -/
def loadUpper (files : FileSystem) (places : Places) : Logged Failure Settings :=
  match places.explicitFile with
  | some path => loadExplicit path (files path)
  | none => loadIfPresent places.projectFile (files places.projectFile)

def load (files : FileSystem) (places : Places) (environment : Environment) :
    Logged Failure Settings :=
  loadLayers (loadGlobal files places.globalFile) (loadUpper files places) environment

end Settings

end LayoutCipher
