import LayoutCipher.Failure.Basic
import LayoutCipher.Grid.Layout
import LayoutCipher.Cipher.Parse
import LayoutCipher.LogLevel

/-!
# Settings

The settings of a user: how much to log, which cipher to use when none is given, and the layout
to type on.  Settings are laid over each other; what a later layer sets, wins.
-/

namespace LayoutCipher

/-- The settings of a user; each of them may be left open. -/
structure Settings where
  logLevel : Option String
  defaultCipher : Option String
  layoutRows : Option (List String)
  deriving DecidableEq, Repr

/-- The values of environment variables that are set. -/
abbrev Environment :=
  String → Option String

namespace Settings

/-- Settings that leave everything open. -/
def unset : Settings :=
  ⟨none, none, none⟩

/-- Lays `upper` over `lower`. -/
def merge (lower upper : Settings) : Settings where
  logLevel := upper.logLevel.or lower.logLevel
  defaultCipher := upper.defaultCipher.or lower.defaultCipher
  layoutRows := upper.layoutRows.or lower.layoutRows

/-- A variable of the environment; an empty one counts as unset. -/
def setting? (environment : Environment) (name : String) : Option String :=
  (environment name).filter (· ≠ "")

/-- What the environment sets. -/
def ofEnvironment (environment : Environment) : Settings where
  logLevel := setting? environment "KEYCIPHER_LOG_LEVEL"
  defaultCipher := setting? environment "KEYCIPHER_CIPHER"
  layoutRows := none

def mergeEnvironment (settings : Settings) (environment : Environment) : Settings :=
  settings.merge (ofEnvironment environment)

/-- Refuses a log level that is none of the known names, in whatever case. -/
def validate (settings : Settings) : Except Failure Unit :=
  match settings.logLevel with
  | none => .ok ()
  | some level =>
      if Text.lower level ∈ LogLevel.names then .ok ()
      else
        .error <| .configuration 1003
          ("Invalid log_level '" ++ level ++ "'. Expected one of: " ++
            ", ".intercalate LogLevel.names) none

def layout (settings : Settings) : Except Failure Layout :=
  match settings.layoutRows with
  | none => .ok Layout.qwerty
  | some rows => (Layout.ofStrings rows).mapError Failure.ofDefect

def cipherOrDefault (settings : Settings) : String :=
  settings.defaultCipher.getD "S1"

/-- The failure of a default cipher that cannot be read. -/
def defaultCipherFailure (cipher : String) (fault : Fault) : Failure :=
  (Failure.configuration 1003
    ("Invalid default_cipher '" ++ cipher ++ "': " ++ fault.message) none).withSources
      [fault.message]

/-- The cipher to use when none is given, once it is known to be readable. -/
def resolveDefaultCipher (settings : Settings) : Logged Failure String := do
  let cipher := settings.cipherOrDefault
  let _ ← (Cipher.parse cipher).mapError (defaultCipherFailure cipher)
  return cipher

end Settings

end LayoutCipher
