import LayoutCipher.Command
import LayoutCipher.Text.Raw

/-!
# The command line

What a command line can ask for, the options it may use, and the values that were given.

Options are known by a letter, a word, or both.  Those of the program can stand before and behind
the name of a command; those of a command only behind it.

Arguments come as bytes.  Only a path may be bytes that are no text; wherever else such bytes stand,
the command line is refused.
-/

namespace LayoutCipher.CommandLine

inductive CommandName where
  | encode
  | validate
  | layout
  deriving DecidableEq, Repr

def CommandName.ofString? (name : String) : Option CommandName :=
  if name = "encode" then some .encode
  else if name = "validate" then some .validate
  else if name = "layout" then some .layout
  else none

/-- What a command line asks for, when it is not a plain run. -/
inductive Stop where
  /-- Help on the program or on one of its commands. -/
  | help (topic : Option CommandName)
  /-- The version of the program. -/
  | version
  /-- Nothing that the program understands. -/
  | usage
  deriving DecidableEq, Repr

/-- A run of the program, with the path as it was handed over. -/
structure RawInvocation where
  /-- How often more output was asked for, at most 255 times. -/
  verbosity : Nat
  configPath : Option RawText
  command : Option Command
  deriving DecidableEq, Repr

/-- A run of the program whose path is a text. -/
structure Invocation where
  verbosity : Nat
  configPath : Option String
  command : Option Command
  deriving DecidableEq, Repr

/-- The run with its path as it is shown, which is the path itself if it is a text. -/
def RawInvocation.shown (invocation : RawInvocation) : Invocation :=
  ⟨invocation.verbosity, invocation.configPath.map RawText.shown, invocation.command⟩

inductive Switch where
  | verbose
  | config
  | cipher
  | format
  | help
  | version
  deriving DecidableEq, Repr

namespace Switch

def takesValue : Switch → Bool
  | .config => true
  | .cipher => true
  | .format => true
  | _ => false

/-- Whether the value of an option may look like an option itself. -/
def allowsHyphen : Switch → Bool
  | .cipher => true
  | _ => false

end Switch

/-- Whether the arguments belong to the program (`none`) or to a command. -/
abbrev Scope :=
  Option CommandName

namespace Scope

def hasCipherOption (scope : Scope) : Bool :=
  scope = some .encode || scope = some .layout

def letter? (scope : Scope) (c : Char) : Option Switch :=
  if c = 'v' then some .verbose
  else if c = 'c' then some .config
  else if c = 'h' then some .help
  else if c = 'V' ∧ scope = none then some .version
  else if c = 'k' ∧ scope.hasCipherOption then some .cipher
  else none

/-- The option whose letter is a byte; letters of options are bytes of their own. -/
def byte? (scope : Scope) (byte : UInt8) : Option Switch :=
  scope.letter? (Char.ofUInt8 byte)

def word? (scope : Scope) (word : String) : Option Switch :=
  if word = "verbose" then some .verbose
  else if word = "config" then some .config
  else if word = "help" then some .help
  else if word = "version" ∧ scope = none then some .version
  else if word = "cipher" ∧ scope.hasCipherOption then some .cipher
  else if word = "format" ∧ scope ≠ none then some .format
  else none

/-- Whether a scope has an argument without an option. -/
def takesOperand (scope : Scope) : Bool :=
  scope = some .encode || scope = some .validate

/-- Whether the argument without an option may look like an option. -/
def operandAllowsHyphen (scope : Scope) : Bool :=
  scope = some .validate

end Scope

/-- The values given in one scope. -/
structure Given where
  verbosity : Option Nat
  config : Option RawText
  cipher : Option String
  format : Option OutputFormat
  operand : Option String
  deriving DecidableEq, Repr

def Given.nothing : Given :=
  ⟨none, none, none, none, none⟩

def formatOfName? (name : String) : Option OutputFormat :=
  if name = "text" then some .text
  else if name = "json" then some .json
  else none

/-- Gives an option, with a value if it takes one.  A value is given at most once; a path is not
empty; a cipher is a text; a format has one of the known names. -/
def Given.add (given : Given) (scope : Scope) (switch : Switch) (value : RawText) :
    Except Stop Given :=
  match switch with
  | .verbose =>
      .ok { given with verbosity := some (min 255 (given.verbosity.getD 0 + 1)) }
  | .config =>
      if given.config = none ∧ value ≠ "" then .ok { given with config := some value }
      else .error .usage
  | .cipher =>
      match given.cipher, value.text? with
      | none, some text => .ok { given with cipher := some text }
      | _, _ => .error .usage
  | .format =>
      match given.format, value.text?.bind formatOfName? with
      | none, some format => .ok { given with format := some format }
      | _, _ => .error .usage
  | .help => .error (.help scope)
  | .version => .error .version

end LayoutCipher.CommandLine
