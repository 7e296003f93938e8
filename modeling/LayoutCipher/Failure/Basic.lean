import LayoutCipher.Fault
import LayoutCipher.Grid.Basic
import LayoutCipher.Text.Numeral

/-!
# Failures

A failure is what a command ends with when it does not succeed: its area, its registered number,
a message and the texts of the errors behind it.  Faults of ciphers and inputs and defects of
layouts become failures whose only source is the fault or defect itself.

The thousands of a number tell the area: 1 for the configuration, 3 for layouts, 7 for ciphers and
inputs, 9 for the rest.
-/

namespace LayoutCipher

/-- The area a failure comes from; it decides the exit status of the program. -/
inductive Failure.Area where
  /-- The configuration, and the file that is to blame, if one is. -/
  | configuration (path : Option String)
  | layout
  | validation
  | other
  deriving DecidableEq, Repr

/-- A failure with the chain of errors that led to it, outermost first. -/
structure Failure where
  area : Failure.Area
  code : Nat
  message : String
  sources : List String
  deriving DecidableEq, Repr

namespace Failure

def configuration (code : Nat) (message : String) (path : Option String) : Failure :=
  ⟨.configuration path, code, message, []⟩

/-- A failure without an area of its own. -/
def other (message : String) : Failure :=
  ⟨.other, 9000, message, []⟩

/-- The failure with another chain of errors behind it. -/
def withSources (failure : Failure) (sources : List String) : Failure :=
  { failure with sources }

/-- The failure that a fault of a cipher or an input amounts to. -/
def ofFault (fault : Fault) : Failure :=
  ⟨.validation, fault.code, fault.message, [fault.message]⟩

def codeOfDefect : Grid.Defect → Nat
  | .empty => 3001
  | .emptyRow _ => 3001
  | .ragged .. => 3002
  | .duplicateCell .. => 3003

/-- The failure that a defect of a layout amounts to. -/
def ofDefect (defect : Grid.Defect) : Failure :=
  ⟨.layout, codeOfDefect defect, defect.message, [defect.message]⟩

/-- The exit status of a program that ends with the failure. -/
def exitStatus (failure : Failure) : Nat :=
  match failure.area with
  | .configuration _ => 2
  | .layout => 3
  | .validation => 8
  | .other => 1

/-- What a registered number stands for. -/
def describeCode (code : Nat) : String :=
  match code with
  | 1001 => "Configuration file not found"
  | 1002 => "Failed to parse configuration"
  | 1003 => "Invalid value in configuration"
  | 1004 => "Configuration I/O error"
  | 3001 => "Layout has no cells"
  | 3002 => "Layout rows have different lengths"
  | 3003 => "Layout contains a duplicate cell"
  | 7001 => "Cipher is empty"
  | 7002 => "Cipher contains an unsupported character"
  | 7003 => "Shift operator is not followed by an amount"
  | 7004 => "Cipher starts or ends with a negative sign"
  | 7005 => "Negative sign is not followed by a digit"
  | 7006 => "Shift amount does not fit in a 64-bit integer"
  | 7007 => "Input is empty"
  | 7008 => "Input character is not on the layout"
  | 9000 => "Generic error"
  | _ => "Unknown error code"

/-- A number of an error in brackets, with at least four digits. -/
def codeTag (code : Nat) : String :=
  "[E" ++ String.ofList (Decimal.padded 4 code) ++ "]"

/-- The text of a failure in a chain of errors and in the log. -/
def display (failure : Failure) : String :=
  let heading :=
    match failure.area with
    | .configuration _ => "Configuration error: "
    | .layout => "Layout error: "
    | .validation => "Validation error: "
    | .other => ""
  codeTag failure.code ++ " " ++ heading ++ failure.message

/-- The text of a failure for the user of the program. -/
def userMessage (failure : Failure) : String :=
  match failure.area with
  | .configuration (some path) =>
      "Configuration problem in " ++ path ++ ": " ++ failure.message
  | .configuration none => "Configuration problem: " ++ failure.message
  | .layout => "Layout problem: " ++ failure.message
  | .validation => "Invalid cipher or input: " ++ failure.message
  | .other => failure.message

end Failure

end LayoutCipher
