import LayoutCipher.Event
import LayoutCipher.Text.Lower

/-!
# Log levels

The level of a run is named by the verbosity on the command line or, without one, by the
settings.  Events that are at least as grave as the level are logged.
-/

namespace LayoutCipher.LogLevel

def names : List String :=
  ["trace", "debug", "info", "warn", "error"]

/-- The level that a verbosity asks for. -/
def ofVerbosity (verbosity : Nat) : String :=
  match verbosity with
  | 0 => "info"
  | 1 => "debug"
  | _ => "trace"

/-- The level of a run: the configured one, in lower case, unless a verbosity was given. -/
def resolve (verbosity : Nat) (configured : Option String) : String :=
  match verbosity, configured with
  | 0, some level => Text.lower level
  | _, _ => ofVerbosity verbosity

/-- The least severity that a level lets through. -/
def threshold? (name : String) : Option Severity :=
  [Severity.trace, .debug, .info, .warn, .error].find? fun severity =>
    Text.lower severity.label = name

end LayoutCipher.LogLevel
