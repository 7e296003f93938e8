import LayoutCipher.Proofs.CommandLine.Verbosity

/-!
# Writing command lines

A command line can ask for every run, whatever its texts look like.  Paths, ciphers and formats are
written behind the equals sign of their options, the operand behind a bare `--`; the cipher may
also stand in an argument of its own, since its option takes whatever comes next.

A path may be bytes that are no text; everything else on a command line is a text.

What has been read is summed up by the values that a reading settles to.  So it does not matter for
the rest of a command line whether the last value was attached to its option or came behind it.
-/

namespace LayoutCipher.CommandLine

/-! ## The writer -/

/-- The word of an option with a value behind an equals sign. -/
def wordArgument (name value : String) : String :=
  "--" ++ name ++ "=" ++ value

/-- How a cipher is handed to its option. -/
inductive Spelling where
  | attached
  | behindWord
  | behindLetter
  deriving DecidableEq, Repr

def Spelling.arguments (cipher : String) : Spelling → List String
  | .attached => [wordArgument "cipher" cipher]
  | .behindWord => ["--cipher", cipher]
  | .behindLetter => ["-k", cipher]

def formatName : OutputFormat → String
  | .text => "text"
  | .json => "json"

/-- The arguments for a cipher, if there is one, and for a format. -/
def optionArguments (spelling : Spelling) (cipher : Option String) (format : OutputFormat) :
    List String :=
  cipher.elim [] spelling.arguments ++ [wordArgument "format" (formatName format)]

/-- The name of a command and what stands behind it. -/
def commandArguments (spelling : Spelling) : Command → List String
  | .encode input cipher format =>
      "encode" :: optionArguments spelling cipher format ++ ["--", input]
  | .validate cipher format => "validate" :: optionArguments spelling none format ++ ["--", cipher]
  | .layout cipher format => "layout" :: optionArguments spelling cipher format

/-- A command line that asks for a run. -/
def Invocation.arguments (invocation : Invocation) (spelling : Spelling) : List String :=
  List.replicate invocation.verbosity "-v" ++
    invocation.configPath.elim [] (fun path => [wordArgument "config" path]) ++
    invocation.command.elim [] (commandArguments spelling)

/-- The word of an option with a value that may be no text. -/
def rawWordArgument (name : String) (value : RawText) : RawText :=
  RawText.ofString ("--" ++ name ++ "=") ++ value

/-- A command line that asks for a run, with the path handed over as it is. -/
def RawInvocation.arguments (invocation : RawInvocation) (spelling : Spelling) : List RawText :=
  flags invocation.verbosity ++
    invocation.configPath.elim [] (fun path => [rawWordArgument "config" path]) ++
    (invocation.command.elim [] (commandArguments spelling)).map RawText.ofString

theorem ofString_wordArgument (name value : String) :
    RawText.ofString (wordArgument name value) = rawWordArgument name (RawText.ofString value) :=
  RawText.ofString_append _ _

theorem map_ofString_arguments (invocation : Invocation) (spelling : Spelling) :
    (invocation.arguments spelling).map RawText.ofString =
      RawInvocation.arguments ⟨invocation.verbosity, invocation.configPath.map RawText.ofString,
        invocation.command⟩ spelling := by
  obtain ⟨verbosity, path, command⟩ := invocation
  cases path <;> simp [Invocation.arguments, RawInvocation.arguments, flags, ofString_wordArgument]

/-! ## Shapes -/

theorem splitValue_append {name : List UInt8} (noEquals : 61 ∉ name) (value : List UInt8) :
    splitValue (name ++ 61 :: value) = (⟨name⟩, some ⟨value⟩) := by
  have inside : ∀ byte ∈ name, decide (byte ≠ 61) = true := by
    intro byte mem
    exact decide_eq_true fun equals => noEquals (equals ▸ mem)
  unfold splitValue
  rw [List.dropWhile_append_of_pos inside, List.takeWhile_append_of_pos inside]
  simp

theorem bytes_rawWordArgument (name : String) (value : RawText) :
    (rawWordArgument name value).bytes =
      45 :: 45 :: ((RawText.ofString name).bytes ++ 61 :: value.bytes) := by
  have hyphens : (RawText.ofString "--").bytes = [45, 45] := rfl
  have equals : (RawText.ofString "=").bytes = [61] := rfl
  simp [rawWordArgument, RawText.ofString_append, RawText.bytes_append, hyphens, equals]

theorem shape_rawWordArgument {name : String} (noEquals : 61 ∉ (RawText.ofString name).bytes)
    (value : RawText) :
    Shape.of (rawWordArgument name value) = .word (RawText.ofString name) (some value) := by
  have split := splitValue_append noEquals value.bytes
  obtain ⟨byte, rest, tail⟩ :
      ∃ byte rest, (RawText.ofString name).bytes ++ 61 :: value.bytes = byte :: rest :=
    List.exists_cons_of_ne_nil (by simp)
  rw [tail] at split
  simp [Shape.of, bytes_rawWordArgument, tail, split]

theorem rawWordArgument_ne {other : RawText} (head : other.bytes.head? ≠ some 45)
    (name : String) (value : RawText) : rawWordArgument name value ≠ other := by
  rintro rfl
  exact head (by rw [bytes_rawWordArgument]; rfl)

/-- No command is named like an option. -/
theorem commandNamed?_rawWordArgument (name : String) (value : RawText) :
    commandNamed? (rawWordArgument name value) = none := by
  unfold commandNamed?
  cases decoded : (rawWordArgument name value).text? with
  | none => rfl
  | some text =>
      have unnamed {other : String} (head : (RawText.ofString other).bytes.head? ≠ some 45) :
          text ≠ other := by
        rintro rfl
        exact rawWordArgument_ne head name value (RawText.text?_eq_some_iff.mp decoded)
      rw [Option.bind_some, CommandName.ofString?, if_neg (unnamed (by decide)),
        if_neg (unnamed (by decide)), if_neg (unnamed (by decide))]

/-! ## Reading what is written -/

section

variable {scope : Scope} {reading : Reading} {given : Given} {name : String} {switch : Switch}

/-- A reading that settles does not wait for a value. -/
theorem waiting?_of_settle_eq_ok (settled : reading.settle scope = .ok given) :
    reading.waiting? = none := by
  unfold Reading.settle at settled
  unfold Reading.waiting?
  split at settled
  · next pending => rw [pending]
  · cases settled
  · next pending => rw [pending]

theorem takesAnything_of_settle_eq_ok (settled : reading.settle scope = .ok given) :
    reading.takesAnything = false := by
  rw [Reading.takesAnything, waiting?_of_settle_eq_ok settled]
  rfl

theorem takeShape_rawWordArgument (settled : reading.settle scope = .ok given)
    (noEquals : 61 ∉ (RawText.ofString name).bytes) (known : scope.word? name = some switch)
    (takes : switch.takesValue) {value : RawText} {next : Given}
    (added : given.add scope switch value = .ok next) :
    reading.takeShape scope (rawWordArgument name value)
        (Shape.of (rawWordArgument name value)) =
      .ok ⟨next, none⟩ := by
  simp [shape_rawWordArgument noEquals, Reading.takeShape, Reading.takeWord, Reading.takeSwitch,
    known, settled, takes, added, bind, Except.bind, pure, Except.pure]

theorem readArguments_of_takeShape (settled : reading.settle scope = .ok given)
    {argument : RawText} {next : Reading} (option : Shape.of argument ≠ .escape)
    (taken : reading.takeShape scope argument (Shape.of argument) = .ok next)
    (rest : List RawText) :
    readArguments scope reading (argument :: rest) = readArguments scope next rest := by
  rw [readArguments, takesAnything_of_settle_eq_ok settled, taken, if_neg option]
  rfl

theorem readArguments_wordArgument (settled : reading.settle scope = .ok given)
    (noEquals : 61 ∉ (RawText.ofString name).bytes) (known : scope.word? name = some switch)
    (takes : switch.takesValue) {value : String} {next : Given}
    (added : given.add scope switch value = .ok next) (rest : List RawText) :
    readArguments scope reading (RawText.ofString (wordArgument name value) :: rest) =
      readArguments scope ⟨next, none⟩ rest := by
  rw [ofString_wordArgument]
  refine readArguments_of_takeShape settled ?_
    (takeShape_rawWordArgument settled noEquals known takes added) rest
  simp [shape_rawWordArgument noEquals]

/-- The option for a cipher takes the next argument for its value, even a bare `--`. -/
theorem readArguments_apart {option : RawText} (isOption : Shape.of option ≠ .escape)
    (taken : Reading.start.takeShape scope option (Shape.of option) =
      .ok ⟨.nothing, some (.cipher, none)⟩) (cipher : RawText) (rest : List RawText) :
    readArguments scope .start (option :: cipher :: rest) =
      readArguments scope ⟨.nothing, some (.cipher, some cipher)⟩ rest := by
  rw [readArguments_of_takeShape rfl isOption taken]
  rfl

theorem add_cipher (scope : Scope) (cipher : String) :
    Given.nothing.add scope .cipher cipher =
      .ok { Given.nothing with cipher := some cipher } := by
  simp [Given.add, Given.nothing]

theorem readArguments_cipher {cipher : Option String}
    (known : cipher.isSome → scope.hasCipherOption)
    (spelling : Spelling) (rest : List RawText) :
    ∃ reading, readArguments scope .start
          ((cipher.elim [] spelling.arguments).map RawText.ofString ++ rest) =
        readArguments scope reading rest ∧
      reading.settle scope = .ok { Given.nothing with cipher := cipher } := by
  cases cipher with
  | none => exact ⟨.start, rfl, rfl⟩
  | some cipher =>
      have word : scope.word? "cipher" = some .cipher := by simp [Scope.word?, known rfl]
      have letter : scope.byte? 107 = some .cipher := by
        have isLetter : Char.ofUInt8 107 = 'k' := rfl
        simp [Scope.byte?, isLetter, Scope.letter?, known rfl]
      cases spelling with
      | attached =>
          exact ⟨⟨{ Given.nothing with cipher := some cipher }, none⟩,
            readArguments_wordArgument rfl (by decide) word rfl (add_cipher scope cipher) rest, rfl⟩
      | behindWord =>
          have shape : Shape.of (RawText.ofString "--cipher") = .word "cipher" none := by decide
          refine ⟨_, readArguments_apart (by simp [shape]) ?_ cipher rest, add_cipher scope cipher⟩
          simp only [shape, Reading.takeShape, Reading.takeWord, RawText.text?_ofString,
            Option.bind_some, word]
          rfl
      | behindLetter =>
          have shape : Shape.of (RawText.ofString "-k") = .letters [107] := by decide
          have noOperand : ([107].any fun byte => (scope.byte? byte).isNone) = false := by
            simp [letter]
          refine ⟨_, readArguments_apart (by simp [shape]) ?_ cipher rest, add_cipher scope cipher⟩
          simp only [shape, Reading.takeShape, noOperand, Bool.false_eq_true, and_false, if_false,
            Reading.takeLetters, letter]
          rfl

theorem readArguments_format (settled : reading.settle scope = .ok given)
    (inCommand : scope ≠ none) (fresh : given.format = none) (format : OutputFormat)
    (rest : List RawText) :
    readArguments scope reading
        (RawText.ofString (wordArgument "format" (formatName format)) :: rest) =
      readArguments scope ⟨{ given with format := some format }, none⟩ rest := by
  have word : scope.word? "format" = some .format := by simp [Scope.word?, inCommand]
  refine readArguments_wordArgument settled (by decide) word rfl ?_ rest
  cases format <;> simp [Given.add, fresh, formatName, formatOfName?]

/-- The values that the written options of a command settle to. -/
def writtenOptions (cipher : Option String) (format : OutputFormat) : Given :=
  ⟨none, none, cipher, some format, none⟩

theorem readArguments_optionArguments {cipher : Option String} (inCommand : scope ≠ none)
    (known : cipher.isSome → scope.hasCipherOption) (spelling : Spelling) (format : OutputFormat)
    (rest : List RawText) :
    readArguments scope .start
        ((optionArguments spelling cipher format).map RawText.ofString ++ rest) =
      readArguments scope ⟨writtenOptions cipher format, none⟩ rest := by
  obtain ⟨reading, read, settled⟩ := readArguments_cipher known spelling
    (RawText.ofString (wordArgument "format" (formatName format)) :: rest)
  rw [optionArguments, List.map_append, List.append_assoc]
  exact read.trans (readArguments_format settled inCommand rfl format rest)

theorem readArguments_operand (takes : scope.takesOperand) (fresh : given.operand = none)
    (operand : String) :
    readArguments scope ⟨given, none⟩ (["--", operand].map RawText.ofString) =
      .ok ⟨{ given with operand := some operand }, none⟩ := by
  have escape : Shape.of (RawText.ofString "--") = .escape := by decide
  have nothingAwaited : (Reading.mk given none).takesAnything = false := rfl
  simp [readArguments, nothingAwaited, escape, readOperands, Reading.takeOperand, Reading.settle,
    takes, fresh, bind, Except.bind, pure, Except.pure]

end

/-! ## Commands -/

theorem readCommand_of_readArguments {name : CommandName} {arguments : List RawText}
    {given : Given} (read : readArguments (some name) .start arguments = .ok ⟨given, none⟩)
    (complete : Scope.takesOperand (some name) → given.operand ≠ none) :
    readCommand name arguments = .ok given := by
  have incomplete : ¬ (Scope.takesOperand (some name) ∧ given.operand = none) :=
    not_and.mpr complete
  simp [readCommand, read, Reading.settle, incomplete, bind, Except.bind, pure, Except.pure]

theorem readCommand_operand {name : CommandName} {cipher : Option String}
    (takes : Scope.takesOperand (some name))
    (known : cipher.isSome → Scope.hasCipherOption (some name)) (spelling : Spelling)
    (format : OutputFormat) (operand : String) :
    readCommand name
        ((optionArguments spelling cipher format ++ ["--", operand]).map RawText.ofString) =
      .ok { writtenOptions cipher format with operand := some operand } := by
  refine readCommand_of_readArguments ?_ (by simp)
  rw [List.map_append, readArguments_optionArguments (by simp) known]
  exact readArguments_operand takes rfl operand

theorem readCommand_layout (spelling : Spelling) (cipher : Option String) (format : OutputFormat) :
    readCommand .layout ((optionArguments spelling cipher format).map RawText.ofString) =
      .ok (writtenOptions cipher format) := by
  refine readCommand_of_readArguments ?_ fun takes => absurd takes (by decide)
  rw [← List.append_nil (List.map _ _)]
  exact readArguments_optionArguments (by simp) (fun _ => rfl) spelling format []

theorem readProgram_name {given inner : Given} {text : String} {name : CommandName}
    {arguments : List RawText} (named : CommandName.ofString? text = some name)
    (notHelp : RawText.ofString text ≠ "help") (read : readCommand name arguments = .ok inner) :
    readProgram ⟨given, none⟩ (RawText.ofString text :: arguments) =
      .ok (given, some (name, inner)) := by
  rw [readProgram]
  simp [Reading.waiting?, notHelp, commandNamed?, named, read, Reading.settle, bind, Except.bind,
    pure, Except.pure]

/-- A written command is read back without anything that belongs to the program. -/
theorem readProgram_commandArguments (given : Given) (spelling : Spelling) (command : Command) :
    ∃ name inner, readProgram ⟨given, none⟩
          ((commandArguments spelling command).map RawText.ofString) =
        .ok (given, some (name, inner)) ∧
      inner.verbosity = none ∧ inner.config = none ∧ commandOf name inner = command := by
  cases command with
  | encode input cipher format =>
      exact ⟨.encode, _, readProgram_name rfl (by decide)
        (readCommand_operand rfl (fun _ => rfl) spelling format input), rfl, rfl, rfl⟩
  | validate cipher format =>
      exact ⟨.validate, _, readProgram_name rfl (by decide)
        (readCommand_operand rfl (by simp) spelling format cipher), rfl, rfl, rfl⟩
  | layout cipher format =>
      exact ⟨.layout, _, readProgram_name rfl (by decide)
        (readCommand_layout spelling cipher format), rfl, rfl, rfl⟩

/-! ## The program -/

/-- The values that what is written in front of a command settles to. -/
def writtenInFront (verbosity : Option Nat) (path : Option RawText) : Given :=
  ⟨verbosity, path, none, none, none⟩

theorem readProgram_flags (verbosity : Option Nat) (bounded : verbosity.getD 0 ≤ 255)
    (n : Nat) (rest : List RawText) :
    ∃ counted, readProgram ⟨writtenInFront verbosity none, none⟩
          (flags n ++ rest) =
        readProgram ⟨writtenInFront counted none, none⟩ rest ∧
      counted.getD 0 = min 255 (verbosity.getD 0 + n) := by
  induction n generalizing verbosity with
  | zero => exact ⟨verbosity, rfl, by omega⟩
  | succ n ih =>
      obtain ⟨counted, read, count⟩ :=
        ih (some (min 255 (verbosity.getD 0 + 1))) (Nat.min_le_left ..)
      rw [Option.getD_some] at count
      refine ⟨counted, ?_, by omega⟩
      rw [flags_succ, List.cons_append, readProgram_verbose]
      exact read

theorem readProgram_config (verbosity : Option Nat) {path : Option RawText}
    (path_ne : path ≠ some "") (rest : List RawText) :
    readProgram ⟨writtenInFront verbosity none, none⟩
        (path.elim [] (fun path => [rawWordArgument "config" path]) ++ rest) =
      readProgram ⟨writtenInFront verbosity path, none⟩ rest := by
  cases path with
  | none => rfl
  | some path =>
      have nonempty : path ≠ "" := fun empty => path_ne (congrArg some empty)
      have noEquals : 61 ∉ (RawText.ofString "config").bytes := by decide
      have shape := shape_rawWordArgument noEquals path
      have added : (writtenInFront verbosity none).add none .config path =
          .ok (writtenInFront verbosity (some path)) := by
        simp [Given.add, writtenInFront, nonempty]
      have taken : Reading.takeShape ⟨writtenInFront verbosity none, none⟩ none _ _ = _ :=
        takeShape_rawWordArgument rfl noEquals rfl rfl added
      have notHelp : rawWordArgument "config" path ≠ "help" :=
        rawWordArgument_ne (by decide) "config" path
      rw [Option.elim_some, List.singleton_append, readProgram, if_neg (by simp [notHelp]),
        commandNamed?_rawWordArgument, taken, if_neg (by simp [shape])]
      rfl

/-- A run is asked for by the command line that is written for it, also where its path is no
text. -/
theorem parseRaw_arguments {invocation : RawInvocation}
    (verbosity_le : invocation.verbosity ≤ 255) (configPath_ne : invocation.configPath ≠ some "")
    (spelling : Spelling) : parseRaw (invocation.arguments spelling) = .ok invocation := by
  obtain ⟨n, path, command⟩ := invocation
  obtain ⟨verbosity, inFront, count⟩ := readProgram_flags none
    (Nat.zero_le 255) n (path.elim [] (fun path => [rawWordArgument "config" path]) ++
      (command.elim [] (commandArguments spelling)).map RawText.ofString)
  rw [readProgram_config verbosity configPath_ne] at inFront
  have counted : verbosity.getD 0 = n := by
    rw [count, Option.getD_none, Nat.zero_add]
    exact Nat.min_eq_right verbosity_le
  rw [parseRaw, RawInvocation.arguments, List.append_assoc]
  change readProgram ⟨writtenInFront none none, none⟩ _ >>= _ = _
  rw [inFront]
  cases command with
  | none => exact congrArg (fun m => Except.ok (RawInvocation.mk m path none)) counted
  | some command =>
      obtain ⟨name, inner, read, uncounted, pathless, asked⟩ :=
        readProgram_commandArguments (writtenInFront verbosity path) spelling command
      rw [Option.elim_some, read]
      change Except.ok (RawInvocation.mk ((inner.verbosity.or verbosity).getD 0)
        (inner.config.or path) (some (commandOf name inner))) = _
      rw [uncounted, pathless, asked, Option.none_or, Option.none_or, counted]

/-- Every run is asked for by the command line that is written for it, whatever its texts look like
and however the cipher is handed to its option. -/
theorem parse_arguments_eq_ok {invocation : Invocation} (verbosity_le : invocation.verbosity ≤ 255)
    (configPath_ne : invocation.configPath ≠ some "") (spelling : Spelling) :
    parse (invocation.arguments spelling) = .ok invocation := by
  obtain ⟨verbosity, path, command⟩ := invocation
  have rawPath_ne : path.map RawText.ofString ≠ some "" := by
    intro empty
    obtain ⟨text, rfl, same⟩ := Option.map_eq_some_iff.mp empty
    exact configPath_ne (congrArg some (RawText.ofString_injective same))
  rw [parse, map_ofString_arguments, parseRaw_arguments verbosity_le rawPath_ne]
  -- a path that is a text is shown as it is
  cases path with
  | none => rfl
  | some path => simp [RawInvocation.shown, Except.map]

/-- A bare `--` as the cipher and options as the operands are kept apart from what they look
like. -/
theorem parse_arguments_eq_ok_hyphens :
    (2 ≤ 255 ∧ some "a=b" ≠ some "") ∧
      parse ["-v", "-v", "--config=a=b", "encode", "--cipher", "--", "--format=json", "--",
          "--cipher=H"] =
        .ok ⟨2, some "a=b", some (.encode "--cipher=H" (some "--") .json)⟩ ∧
      parse ["-v", "-v", "--config=a=b", "layout", "-k", "", "--format=text"] =
        .ok ⟨2, some "a=b", some (.layout (some "") .text)⟩ ∧
      parse ["validate", "--format=text", "--", "-H"] =
        .ok ⟨0, none, some (.validate "-H" .text)⟩ := by
  have path_ne : some "a=b" ≠ some "" := by decide
  have encodes : Invocation.arguments
      ⟨2, some "a=b", some (.encode "--cipher=H" (some "--") .json)⟩ .behindWord =
      ["-v", "-v", "--config=a=b", "encode", "--cipher", "--", "--format=json", "--",
        "--cipher=H"] := by decide
  have shows : Invocation.arguments ⟨2, some "a=b", some (.layout (some "") .text)⟩ .behindLetter =
      ["-v", "-v", "--config=a=b", "layout", "-k", "", "--format=text"] := by decide
  have validates : Invocation.arguments ⟨0, none, some (.validate "-H" .text)⟩ .attached =
      ["validate", "--format=text", "--", "-H"] := by decide
  refine ⟨⟨by decide, path_ne⟩, ?_, ?_, ?_⟩
  · rw [← encodes]
    exact parse_arguments_eq_ok (by decide) path_ne .behindWord
  · rw [← shows]
    exact parse_arguments_eq_ok (by decide) path_ne .behindLetter
  · rw [← validates]
    exact parse_arguments_eq_ok (by decide) (by decide) .attached

end LayoutCipher.CommandLine
