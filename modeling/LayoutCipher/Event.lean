import LayoutCipher.Operation.Basic

/-!
# Events

What a run reports to its log while it works.  Every event has a severity, the component that
reports it, a message and named fields.
-/

namespace LayoutCipher

/-- Severities, from the most talkative to the gravest. -/
inductive Severity where
  | trace
  | debug
  | info
  | warn
  | error
  deriving DecidableEq, Repr

namespace Severity

def label : Severity → String
  | .trace => "TRACE"
  | .debug => "DEBUG"
  | .info => "INFO"
  | .warn => "WARN"
  | .error => "ERROR"

/-- The rank of a severity; graver ones rank higher. -/
def rank : Severity → Nat
  | .trace => 0
  | .debug => 1
  | .info => 2
  | .warn => 3
  | .error => 4

end Severity

/-- The value of a field: a text that a log line quotes, one that it shows as it stands, or a
number. -/
inductive FieldValue where
  | quoted (text : String)
  | shown (text : String)
  | count (n : Nat)
  deriving DecidableEq, Repr

/-- What can happen during a run. -/
inductive Event where
  /-- The passes found nothing wrong with the cipher. -/
  | cipherPassed (cipher : String)
  /-- An operation is about to be applied to a layout. -/
  | operationApplied (operation : Operation)
  /-- An input was retyped by a cipher of so many operations. -/
  | inputRetyped (cipher : String) (operations inputLength : Nat)
  /-- An encoding is about to start. -/
  | encodingStarted (cipher : String)
  /-- A settings file is about to be read. -/
  | settingsFileOpened (path : String)
  /-- The program has its settings and knows how much to report. -/
  | programStarted (verbosity : Nat)
  /-- The command line, as the text of a list of quoted arguments. -/
  | argumentsReceived (text : String)
  /-- The run failed with an error that displays so. -/
  | runFailed (display : String)
  deriving DecidableEq

namespace Event

def severity : Event → Severity
  | .cipherPassed _ => .trace
  | .operationApplied _ => .trace
  | .inputRetyped .. => .debug
  | .encodingStarted _ => .debug
  | .settingsFileOpened _ => .debug
  | .programStarted _ => .debug
  | .argumentsReceived _ => .trace
  | .runFailed _ => .error

def component : Event → String
  | .cipherPassed _ => "keycipher::validation"
  | .operationApplied _ => "keycipher::transformer"
  | .inputRetyped .. => "keycipher::transformer"
  | .encodingStarted _ => "keycipher::cli::commands"
  | .settingsFileOpened _ => "keycipher::config::loader"
  | .programStarted _ => "keycipher"
  | .argumentsReceived _ => "keycipher"
  | .runFailed _ => "keycipher::cli::error_handling"

def message : Event → String
  | .cipherPassed _ => "Cipher passed validation"
  | .operationApplied _ => "Applying operation"
  | .inputRetyped .. => "Retyped input on transformed layout"
  | .encodingStarted _ => "Encoding input"
  | .settingsFileOpened path => "Loading configuration from " ++ path
  | .programStarted verbosity => s!"keycipher started with verbosity level: {verbosity}"
  | .argumentsReceived text => "Full CLI args: " ++ text
  | .runFailed display => "Fatal error: " ++ display

/-- The named values of an event, in the order in which they are reported. -/
def fields : Event → List (String × FieldValue)
  | .cipherPassed cipher => [("cipher", .quoted cipher)]
  | .operationApplied operation => [("op", .shown operation.text)]
  | .inputRetyped cipher operations inputLength =>
      [("cipher", .quoted cipher), ("operations", .count operations),
        ("input_len", .count inputLength)]
  | .encodingStarted cipher => [("cipher", .quoted cipher)]
  | _ => []

end Event

end LayoutCipher
