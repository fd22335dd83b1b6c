import ManifestAudit.Options.Usage

/-!
# Help and version texts

Help comes in two lengths with one heading: a line for each option, or a paragraph
for each.
-/

namespace ManifestAudit

namespace HelpLength

/-- The lines with which both help texts start. -/
def heading : List String :=
  ["Static auditor for Python requirements manifests",
   "",
   "Usage: reqaudit [OPTIONS]",
   "",
   "Options:"]

/-- The help lines that give one line to each option. -/
def shortLines : List String :=
  ["  -p, --project <PROJECT>  Path to project root (overrides current directory)",
   "      --format <FORMAT>    Output format [default: human] [possible values: human, json]",
   "      --list-rules         List the built-in rules and exit",
   "      --debug              Enable debug logging",
   "  -h, --help               Print help (see more with '--help')",
   "  -V, --version            Print version"]

/-- The help lines that explain each option below its name. -/
def longLines : List String :=
  ["  -p, --project <PROJECT>",
   "          Path to project root (overrides current directory)",
   "",
   "      --format <FORMAT>",
   "          Output format",
   "",
   "          Possible values:",
   "          - human: One line per finding",
   "          - json:  Pretty-printed JSON document",
   "          ",
   "          [default: human]",
   "",
   "      --list-rules",
   "          List the built-in rules and exit",
   "",
   "      --debug",
   "          Enable debug logging",
   "",
   "  -h, --help",
   "          Print help (see a summary with '-h')",
   "",
   "  -V, --version",
   "          Print version"]

/-- The help text of a length. -/
def text (length : HelpLength) : String :=
  let options := match length with
    | short => shortLines
    | long => longLines
  String.join ((heading ++ options).map (· ++ "\n"))

end HelpLength

/-- The text that names the program and its version. -/
def versionText : String := "reqaudit 0.1.0\n"

end ManifestAudit
