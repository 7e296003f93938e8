import LayoutCipher.Grid.Layout
import LayoutCipher.Operation.Json
import LayoutCipher.Retype
import LayoutCipher.Settings.Basic

/-!
# Commands

A command encodes an input, validates a cipher or shows a layout, and ends with the text to
print.  The same results can be had as plain text or as JSON.
-/

namespace LayoutCipher

inductive OutputFormat where
  | text
  | json
  deriving DecidableEq, Repr

/-- What the user asks for. -/
inductive Command where
  /-- Retypes an input by a cipher, or by the default cipher. -/
  | encode (input : String) (cipher : Option String) (format : OutputFormat)
  /-- Reads a cipher and lists its operations. -/
  | validate (cipher : String) (format : OutputFormat)
  /-- Shows the layout, transformed if a cipher is given. -/
  | layout (cipher : Option String) (format : OutputFormat)
  deriving DecidableEq, Repr

namespace Command

def encodingJson (cipher input output : String) : Json :=
  .object [("cipher", .string cipher), ("input", .string input), ("output", .string output)]

def operationsJson (cipher : String) (operations : List Operation) : Json :=
  .object
    [("cipher", .string cipher), ("operations", .array (operations.map Operation.toJson))]

def layoutJson (cipher : Option String) (layout : Layout) : Json :=
  .object
    [("cipher", cipher.elim .null .string), ("rows", Layout.toJson layout)]

/-- The numbered lines that describe operations, the first with number `number`. -/
def operationLines (number : Nat) : List Operation → List String
  | [] => []
  | operation :: rest =>
      s!"  {number}. {operation.text}: {operation.description}" ::
        operationLines (number + 1) rest

def operationsText (cipher : String) (operations : List Operation) : String :=
  let plural := if operations.length = 1 then "" else "s"
  "\n".intercalate
    (s!"Cipher '{cipher}' is valid ({operations.length} operation{plural})" ::
      operationLines 1 operations)

/-- Retypes an input.  The default cipher is checked before the layout is built. -/
def runEncode (settings : Settings) (input : String) (cipher : Option String)
    (format : OutputFormat) : Logged Failure String := do
  let cipher ←
    match cipher with
    | some cipher => pure cipher
    -- a default cipher that cannot be read is a failure of the settings, not of the cipher
    | none => settings.resolveDefaultCipher
  let layout ← Logged.ofExcept settings.layout
  Logged.emit (.encodingStarted cipher)
  let output ← (layout.execute cipher input).mapError Failure.ofFault
  return match format with
    | .text => output
    | .json => (encodingJson cipher input output).pretty

/-- Reads a cipher and describes its operations. -/
def runValidate (cipher : String) (format : OutputFormat) : Logged Failure String := do
  let operations ← (Cipher.parse cipher).mapError Failure.ofFault
  return match format with
    | .text => operationsText cipher operations
    | .json => (operationsJson cipher operations).pretty

/-- Shows the layout that a cipher makes, or the layout as it is. -/
def runLayout (settings : Settings) (cipher : Option String) (format : OutputFormat) :
    Logged Failure String := do
  let base ← Logged.ofExcept settings.layout
  let layout ←
    match cipher with
    | some cipher => (base.transform cipher).mapError Failure.ofFault
    | none => pure base
  return match format with
    | .text => Layout.display layout
    | .json => (layoutJson cipher layout).pretty

/-- Runs a command; without one, a sample input is encoded by the default cipher. -/
def run (settings : Settings) : Option Command → Logged Failure String
  | some (.encode input cipher format) => runEncode settings input cipher format
  | some (.validate cipher format) => runValidate cipher format
  | some (.layout cipher format) => runLayout settings cipher format
  | none => runEncode settings "DOG" none .text

end Command

end LayoutCipher
