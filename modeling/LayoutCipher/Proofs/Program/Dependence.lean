import LayoutCipher.Program
import LayoutCipher.Proofs.Command.Dependence
import LayoutCipher.Proofs.CommandLine.Verbosity
import LayoutCipher.Proofs.CommandLine.Writing
import LayoutCipher.Proofs.Settings.Layers

/-!
# What runs of the program depend on

What is printed and the exit status come from the command, from what it reads of the settings, and
from nothing else.  The verbosity and the configured level decide about the log and the causes in a
report only, as long as the log can name the arguments: a run that logs everything is cut short by
an argument that is no text.
-/

namespace LayoutCipher

/-- Settings, less the level. -/
def Settings.quiet (settings : Settings) : Settings :=
  { settings with logLevel := none }

namespace Program

/-! ## Settings of a run -/

/-- A path that is no text is followed like the text it is shown as, if that led to the same file
and were not the path of the global one. -/
theorem loadSettings_of_isText_eq_false {surroundings : Surroundings} {path : RawText}
    (foreign : path.isText = false)
    (apart : (places surroundings none).globalFile ≠ some path.shown) :
    loadSettings surroundings (some path) =
      Settings.load
        (fun asked =>
          if asked = path.shown then surroundings.foreignFiles path else surroundings.files asked)
        (places surroundings (some path.shown)) surroundings.environment := by
  have textless : path.text? = none := by simpa [RawText.isText] using foreign
  simp only [loadSettings, textless, Settings.load]
  congr 1
  · refine (Settings.loadGlobal_congr fun asked named => if_neg ?_).symm
    rintro rfl
    exact apart named
  · simp [Settings.loadUpper, places]

/-! ## Runs that are cut short -/

end Program

end LayoutCipher
