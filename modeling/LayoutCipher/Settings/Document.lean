import LayoutCipher.Settings.Basic
import LayoutCipher.Toml.Reader

/-!
# Settings as a document

Settings are written as a TOML document with the keys `log_level`, `default_cipher` and `layout`;
the layout has its row texts under `rows`.  Other keys are refused.
-/

namespace LayoutCipher.Settings

open Toml

def textsOfValue? : Value → Option (List String)
  | .array elements =>
      elements.mapM fun
        | .string s => some s
        | _ => none
  | _ => none

/-- The row texts of a layout.  The rows may also come as the first element of an array. -/
def rowsOfValue? : Value → Option (List String)
  | .table _ [("rows", rows)] => textsOfValue? rows
  | .array (rows :: _) => textsOfValue? rows
  | _ => none

/-- Adds what an entry sets to the settings. -/
def addEntry? (settings : Settings) : String × Value → Option Settings
  | ("log_level", .string level) => some { settings with logLevel := some level }
  | ("default_cipher", .string cipher) => some { settings with defaultCipher := some cipher }
  | ("layout", value) => do
      let rows ← rowsOfValue? value
      return { settings with layoutRows := some rows }
  | _ => none

def ofDocument? (text : String) : Option Settings := do
  let entries ← Toml.read? text
  entries.foldlM addEntry? unset

end LayoutCipher.Settings
