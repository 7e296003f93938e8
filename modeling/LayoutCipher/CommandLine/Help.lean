import LayoutCipher.CommandLine.Basic

/-!
# Help texts

What the program prints when it is asked for help or for its version, and when it cannot make
sense of its command line.
-/

namespace LayoutCipher.CommandLine

def versionText : String :=
  "keycipher 0.1.0"

/-- The options that every command knows. -/
def commonOptions : List String :=
  ["  -v, --verbose...     Enable verbose output (-v for debug, -vv for trace, -vvv for all)",
    "  -c, --config <PATH>  Path to a TOML configuration file",
    "  -h, --help           Print help"]

def formatOption : String :=
  "      --format <FORMAT>  Output format [default: text] [possible values: text, json]"

def helpLines : Option CommandName → List String
  | none =>
      ["keycipher - Retype text on a keyboard layout transformed by a cipher", "",
        "Usage: keycipher [OPTIONS] [COMMAND]", "",
        "Commands:",
        "  encode    Retype input on the layout transformed by a cipher",
        "  validate  Check a cipher and list the operations it encodes",
        "  layout    Print the layout, optionally after applying a cipher",
        "  help      Print this message or the help of the given subcommand(s)", "",
        "Options:"] ++ commonOptions ++ ["  -V, --version        Print version"]
  | some .encode =>
      ["Retype input on the layout transformed by a cipher", "",
        "Usage: keycipher encode [OPTIONS] <INPUT>", "",
        "Arguments:",
        "  <INPUT>  Text to retype; every character must be on the layout", "",
        "Options:",
        "  -k, --cipher <CIPHER>  Cipher to apply (e.g. \"HS2\" or \"VS-3\"); " ++
          "defaults to the configured cipher",
        formatOption] ++ commonOptions
  | some .validate =>
      ["Check a cipher and list the operations it encodes", "",
        "Usage: keycipher validate [OPTIONS] <CIPHER>", "",
        "Arguments:",
        "  <CIPHER>  Cipher to check", "",
        "Options:",
        formatOption] ++ commonOptions
  | some .layout =>
      ["Print the layout, optionally after applying a cipher", "",
        "Usage: keycipher layout [OPTIONS]", "",
        "Options:",
        "  -k, --cipher <CIPHER>  Cipher to apply before printing",
        formatOption] ++ commonOptions

def helpText (topic : Option CommandName) : String :=
  "\n".intercalate (helpLines topic)

/-- What is printed when the command line makes no sense. -/
def usageText : String :=
  "error: invalid arguments\n\nUsage: keycipher [OPTIONS] [COMMAND]\n\n" ++
    "For more information, try '--help'."

end LayoutCipher.CommandLine
