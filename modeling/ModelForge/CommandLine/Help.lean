/-!
The help of the command line, in a short and a long form, and the version.
-/

namespace ModelForge.CommandLine.Help

def shortLines : List String := [
  "Validate model definitions and generate typed source files from them",
  "",
  "Usage: mtypes [OPTIONS] <--validate <PATH>|--generate <PATH>>",
  "",
  "Options:",
  "  -v, --validate <PATH>                Validate a model file, or every .json file in a directory",
  "  -g, --generate <PATH>                Generate types for a model file, or every .json file in a directory",
  "  -l, --langauge <LANG>                Target language (case-insensitive), e.g. typescript, rust, c# [alias: --language]",
  "  -o, --output <DIR>                   Output directory. Defaults to the directory of each input",
  "      --config <FILE>                  YAML configuration file",
  "      --grammar <FILE>                 Model grammar (JSON Schema) replacing the bundled one",
  "      --quicktype <PROGRAM>            quicktype executable to run",
  "      --verbose...                     Enable verbose logging. Repeat for more (--verbose --verbose)",
  "      --log-format <LOG_FORMAT>        Log line format [default: text] [possible values: text, json]",
  "      --report-format <REPORT_FORMAT>  Result output format [default: text] [possible values: text, json]",
  "  -h, --help                           Print help (see more with '--help')",
  "  -V, --version                        Print version"]

def longLines : List String := [
  "Validate model definitions and generate typed source files from them",
  "",
  "Usage: mtypes [OPTIONS] <--validate <PATH>|--generate <PATH>>",
  "",
  "Options:",
  "  -v, --validate <PATH>",
  "          Validate a model file, or every .json file in a directory",
  "",
  "  -g, --generate <PATH>",
  "          Generate types for a model file, or every .json file in a directory",
  "",
  "  -l, --langauge <LANG>",
  "          Target language (case-insensitive), e.g. typescript, rust, c#",
  "          ",
  "          [alias: --language]",
  "",
  "  -o, --output <DIR>",
  "          Output directory. Defaults to the directory of each input",
  "",
  "      --config <FILE>",
  "          YAML configuration file",
  "",
  "      --grammar <FILE>",
  "          Model grammar (JSON Schema) replacing the bundled one",
  "",
  "      --quicktype <PROGRAM>",
  "          quicktype executable to run",
  "",
  "      --verbose...",
  "          Enable verbose logging. Repeat for more (--verbose --verbose)",
  "",
  "      --log-format <LOG_FORMAT>",
  "          Log line format",
  "          ",
  "          [default: text]",
  "          [possible values: text, json]",
  "",
  "      --report-format <REPORT_FORMAT>",
  "          Result output format",
  "",
  "          Possible values:",
  "          - text: Human-readable lines",
  "          - json: The full report as pretty-printed JSON",
  "          ",
  "          [default: text]",
  "",
  "  -h, --help",
  "          Print help (see a summary with '-h')",
  "",
  "  -V, --version",
  "          Print version"]

/-- The help, each line of it with a line feed. -/
def text (long : Bool) : String := String.join ((if long then longLines else shortLines).map (· ++ "\n"))

def version : String := "mtypes 0.1.0\n"

end ModelForge.CommandLine.Help
