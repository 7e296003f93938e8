import LayoutCipher.CommandLine.Basic

/-!
# Reading the command line

Arguments are read from left to right.  An option that takes a value and has none attached waits
for the next argument; only after that, when the next option or operand comes, is it settled.
Behind a bare `--` every argument is an operand.
-/

namespace LayoutCipher.CommandLine

inductive Shape where
  /-- Two hyphens and nothing else. -/
  | escape
  /-- Two hyphens and a word, with a value behind an equals sign if there is one. -/
  | word (name : RawText) (value : Option RawText)
  /-- A hyphen and letters. -/
  | letters (cluster : List UInt8)
  | plain
  deriving DecidableEq, Repr

/-- The bytes in front of the first equals sign (the byte 61) and those behind it, if there is
one. -/
def splitValue (bytes : List UInt8) : RawText × Option RawText :=
  match bytes.dropWhile (· ≠ 61) with
  | [] => (⟨bytes⟩, none)
  | _ :: value => (⟨bytes.takeWhile (· ≠ 61)⟩, some ⟨value⟩)

/-- The shape of an argument; a hyphen is the byte 45. -/
def Shape.of (argument : RawText) : Shape :=
  match argument.bytes with
  | [45, 45] => .escape
  | 45 :: 45 :: bytes =>
      let (name, value) := splitValue bytes
      .word name value
  | 45 :: letter :: cluster => .letters (letter :: cluster)
  | _ => .plain

/-- What is known while the arguments of a scope are read. -/
structure Reading where
  given : Given
  /-- The last option that takes a value, and its value once it has come. -/
  pending : Option (Switch × Option RawText)
  deriving DecidableEq, Repr

namespace Reading

def start : Reading :=
  ⟨.nothing, none⟩

/-- The option that waits for the next argument. -/
def waiting? (reading : Reading) : Option Switch :=
  match reading.pending with
  | some (switch, none) => some switch
  | _ => none

/-- Whether the next argument is a value, whatever it looks like. -/
def takesAnything (reading : Reading) : Bool :=
  reading.waiting?.any Switch.allowsHyphen

/-- Whether the next operand may look like an option. -/
def operandAllowsHyphen (reading : Reading) (scope : Scope) : Bool :=
  scope.operandAllowsHyphen && reading.given.operand = none

/-- Settles the pending option; one that still waits for its value is refused. -/
def settle (reading : Reading) (scope : Scope) : Except Stop Given :=
  match reading.pending with
  | none => .ok reading.given
  | some (_, none) => .error .usage
  | some (switch, some value) => reading.given.add scope switch value

def takeOperand (reading : Reading) (scope : Scope) (argument : RawText) :
    Except Stop Reading := do
  let given ← reading.settle scope
  if scope.takesOperand ∧ given.operand = none then
    match argument.text? with
    | some text => return ⟨{ given with operand := some text }, none⟩
    | none => .error .usage
  else .error .usage

/-- Takes an argument as the value that is waited for, or else as the operand. -/
def takeValue (reading : Reading) (scope : Scope) (argument : RawText) :
    Except Stop Reading :=
  match reading.waiting? with
  | some switch => .ok ⟨reading.given, some (switch, some argument)⟩
  | none => reading.takeOperand scope argument

/-- Takes an option with the value attached to it. -/
def takeSwitch (reading : Reading) (scope : Scope) (switch : Switch)
    (attached : Option RawText) : Except Stop Reading := do
  let given ← reading.settle scope
  if switch.takesValue then
    match attached with
    | some value =>
        let given ← given.add scope switch value
        return ⟨given, none⟩
    | none => return ⟨given, some (switch, none)⟩
  else
    match attached with
    | some _ => .error .usage
    | none =>
        let given ← given.add scope switch ""
        return ⟨given, none⟩

def takeWord (reading : Reading) (scope : Scope) (argument name : RawText)
    (attached : Option RawText) : Except Stop Reading :=
  match name.text?.bind scope.word? with
  | some switch => reading.takeSwitch scope switch attached
  | none =>
      if reading.operandAllowsHyphen scope then reading.takeValue scope argument
      else .error .usage

/-- The value attached to a letter: what follows it, less an equals sign in front. -/
def attachedValue? : List UInt8 → Option RawText
  | [] => none
  | 61 :: value => some ⟨value⟩
  | value => some ⟨value⟩

/-- Takes letters behind a hyphen, one after another.  The first option that takes a value takes
the rest of the letters. -/
def takeLetters (reading : Reading) (scope : Scope) : List UInt8 → Except Stop Reading
  | [] => .ok reading
  | letter :: rest =>
      match scope.byte? letter with
      | none => .error .usage
      | some switch =>
          if switch.takesValue then reading.takeSwitch scope switch (attachedValue? rest)
          else
            match reading.takeSwitch scope switch none with
            | .error stop => .error stop
            | .ok reading => takeLetters reading scope rest

def takeShape (reading : Reading) (scope : Scope) (argument : RawText) :
    Shape → Except Stop Reading
  | .word name attached => reading.takeWord scope argument name attached
  | .letters cluster =>
      if reading.operandAllowsHyphen scope ∧
          cluster.any (fun letter => (scope.byte? letter).isNone) then
        reading.takeValue scope argument
      else reading.takeLetters scope cluster
  | _ => reading.takeValue scope argument

end Reading

def readOperands (scope : Scope) (reading : Reading) : List RawText → Except Stop Reading
  | [] => .ok reading
  | argument :: rest => do
      let reading ← reading.takeOperand scope argument
      readOperands scope reading rest

def readArguments (scope : Scope) (reading : Reading) : List RawText → Except Stop Reading
  | [] => .ok reading
  | argument :: rest => do
      -- an option that takes anything also takes `--` as its value
      if reading.takesAnything then
        let reading ← reading.takeValue scope argument
        readArguments scope reading rest
      else if Shape.of argument = .escape then
        readOperands scope reading rest
      else
        let reading ← reading.takeShape scope argument (Shape.of argument)
        readArguments scope reading rest

/-- The values given behind the name of a command; its operand, if it has one, must be there. -/
def readCommand (name : CommandName) (arguments : List RawText) : Except Stop Given := do
  let scope : Scope := some name
  let reading ← readArguments scope .start arguments
  let given ← reading.settle scope
  if scope.takesOperand ∧ given.operand = none then .error .usage
  else return given

def commandNamed? (argument : RawText) : Option CommandName :=
  argument.text?.bind CommandName.ofString?

/-- What a request for help is about. -/
def helpTopic : List RawText → Stop
  | [] => .help none
  | [argument] =>
      if argument = "help" then .help none
      else (commandNamed? argument).elim .usage fun name => .help (some name)
  | _ => .usage

/-- Reads the arguments of the program up to the name of a command, and behind it those of the
command. -/
def readProgram (reading : Reading) :
    List RawText → Except Stop (Given × Option (CommandName × Given))
  | [] => do
      let given ← reading.settle none
      return (given, none)
  | argument :: rest => do
      if reading.waiting? = none ∧ argument = "help" then .error (helpTopic rest)
      else
        match reading.waiting?, commandNamed? argument with
        | none, some name =>
            -- what is wrong behind the name is reported before what is still open in front of it
            let inner ← readCommand name rest
            let given ← reading.settle none
            return (given, some (name, inner))
        | _, _ =>
            if Shape.of argument = .escape then
              let reading ← readOperands none reading rest
              let given ← reading.settle none
              return (given, none)
            else
              let reading ← reading.takeShape none argument (Shape.of argument)
              readProgram reading rest

/-- The command that the values behind its name describe. -/
def commandOf (name : CommandName) (given : Given) : Command :=
  let format := given.format.getD .text
  match name with
  | .encode => .encode (given.operand.getD "") given.cipher format
  | .validate => .validate (given.operand.getD "") format
  | .layout => .layout given.cipher format

/-- Reads a command line, without the name of the program.  What is given behind the name of a
command takes the place of what was given in front of it. -/
def parseRaw (arguments : List RawText) : Except Stop RawInvocation := do
  let (outer, command) ← readProgram .start arguments
  match command with
  | none => return ⟨outer.verbosity.getD 0, outer.config, none⟩
  | some (name, inner) =>
      return ⟨(inner.verbosity.or outer.verbosity).getD 0, inner.config.or outer.config,
        some (commandOf name inner)⟩

/-- Reads a command line of texts. -/
def parse (arguments : List String) : Except Stop Invocation :=
  (parseRaw (arguments.map RawText.ofString)).map RawInvocation.shown

end LayoutCipher.CommandLine
