import LayoutCipher.CommandLine.Help
import LayoutCipher.CommandLine.Parse
import LayoutCipher.Failure.Report
import LayoutCipher.LogLine
import LayoutCipher.Settings.Load

/-!
# Runs of the program

A run reads the command line, loads the settings and carries out the command.  Nothing is logged
before the settings are known, because they decide what is logged.

The name of the program and its arguments are handed over as bytes.  A path among them may be no
text, and then the run goes well until the log has to name the arguments: it only knows how to write
texts, so the run is cut short in front of the command.
-/

namespace LayoutCipher.Program

/-- What a run finds around it. -/
structure Surroundings where
  workingDirectory : String
  environment : Environment
  files : FileSystem
  /-- What the program was called as. -/
  programName : RawText := "keycipher"
  /-- What is found at paths that are no texts. -/
  foreignFiles : RawText → FileState := fun _ => .absent

/-- What a run leaves behind. -/
structure Result where
  exitStatus : Nat
  /-- The text for standard output. -/
  output : String
  /-- The lines of the log. -/
  log : List String
  /-- The report on what went wrong. -/
  report : String

inductive Ending where
  /-- The command line made no sense. -/
  | refused
  /-- A text was asked for and is all that is printed. -/
  | informed (text : String)
  /-- The log could not name an argument, and the run was cut short; the events are those that are
  logged. -/
  | aborted (verbosity : Nat) (events : List Event) (argument : RawText)
  /-- The command was carried out, or failed; the events are those that are logged. -/
  | finished (verbosity : Nat) (events : List Event) (outcome : Except Failure String)

/-- The directory of the user's settings: the one that the environment names, if its path is
absolute, and else the usual one in the home directory. -/
def configHome? (environment : Environment) : Option String :=
  match (environment "XDG_CONFIG_HOME").filter (·.startsWith "/") with
  | some directory => some directory
  | none => ((environment "HOME").filter (· ≠ "")).map (joinPath · ".config")

/-- The files that a run looks for its settings in. -/
def places (surroundings : Surroundings) (configPath : Option String) : Settings.Places where
  globalFile :=
    (configHome? surroundings.environment).map fun directory =>
      joinPath (joinPath directory "keycipher") "config.toml"
  explicitFile := configPath
  projectFile := joinPath surroundings.workingDirectory "keycipher.toml"

/-- Loads the settings of a run.  A path that is no text is shown in failures as best it can be. -/
def loadSettings (surroundings : Surroundings) (configPath : Option RawText) :
    Logged Failure Settings :=
  let loadFrom (path : Option String) : Logged Failure Settings :=
    Settings.load surroundings.files (places surroundings path) surroundings.environment
  match configPath with
  | none => loadFrom none
  | some path =>
      match path.text? with
      | some text => loadFrom (some text)
      | none =>
          Settings.loadLayers
            (Settings.loadGlobal surroundings.files (places surroundings none).globalFile)
            (Settings.loadExplicit path.shown (surroundings.foreignFiles path))
            surroundings.environment

def logsSeverity (level : String) (severity : Severity) : Bool :=
  match LogLevel.threshold? level with
  | some threshold => threshold.rank ≤ severity.rank
  | none => false

def isLogged (level : String) (event : Event) : Bool :=
  logsSeverity level event.severity

/-- The level of a run, once its settings have been loaded or could not be. -/
def levelOf (verbosity : Nat) (loaded : Except Failure Settings) : String :=
  LogLevel.resolve verbosity (loaded.toOption.bind Settings.logLevel)

/-- The arguments as texts, or the first of them that is none. -/
def textsOf (arguments : List RawText) : Except RawText (List String) :=
  arguments.mapM fun argument => argument.text?.elim (.error argument) .ok

/-- The event that names the arguments.  Where it is not logged nobody asks for their texts. -/
def argumentEvents (level : String) (arguments : List RawText) : Except RawText (List Event) :=
  if logsSeverity level .trace then
    (textsOf arguments).map fun texts => [.argumentsReceived (Text.quotedList texts)]
  else .ok []

/-- What a run does with its settings, if they could be loaded. -/
def perform (command : Option Command) (loaded : Except Failure Settings) :
    Logged Failure String := do
  let settings ← Logged.ofExcept loaded
  Command.run settings command

/-- The events of a computation, with the failure that ended it reported last. -/
def eventsWithFailure (computation : Logged Failure String) : List Event :=
  match computation.outcome with
  | .ok _ => computation.events
  | .error failure => computation.events ++ [.runFailed failure.display]

/-- Runs the program on what the system hands over. -/
def runRaw (surroundings : Surroundings) (arguments : List RawText) : Ending :=
  match CommandLine.parseRaw arguments with
  | .error .usage => .refused
  | .error .version => .informed CommandLine.versionText
  | .error (.help topic) => .informed (CommandLine.helpText topic)
  | .ok invocation =>
      -- the events of the loading itself are dropped: there was no log yet to write them to
      let loaded := (loadSettings surroundings invocation.configPath).outcome
      let level := levelOf invocation.verbosity loaded
      let started := Event.programStarted invocation.verbosity
      match argumentEvents level (surroundings.programName :: arguments) with
      | .error argument =>
          .aborted invocation.verbosity ([started].filter (isLogged level)) argument
      | .ok received =>
          let performed := perform invocation.command loaded
          let events := started :: received ++ eventsWithFailure performed
          .finished invocation.verbosity (events.filter (isLogged level)) performed.outcome

/-- Runs the program on arguments that are texts. -/
def run (surroundings : Surroundings) (arguments : List String) : Ending :=
  runRaw surroundings (arguments.map RawText.ofString)

/-- What is printed at the end of a run.  The report on a run cut short is the message alone, without
the place in the program that goes in front of it. -/
def Ending.result : Ending → Result
  | .refused => ⟨2, "", [], CommandLine.usageText⟩
  | .informed text => ⟨0, text ++ "\n", [], ""⟩
  | .aborted verbosity events argument =>
      ⟨101, "", events.map (LogLine.ofEvent (2 ≤ verbosity)),
        "called `Result::unwrap()` on an `Err` value: " ++ argument.quoted⟩
  | .finished verbosity events outcome =>
      let log := events.map (LogLine.ofEvent (2 ≤ verbosity))
      match outcome with
      | .ok text => ⟨0, text ++ "\n", log, ""⟩
      | .error failure =>
          let report := Report.ofFailure failure
          ⟨report.exitStatus, "", log, report.render verbosity⟩

end LayoutCipher.Program
