import TreeReport.CommandLine.Arguments

/-! What the command line prints about itself. -/
namespace TreeReport.CommandLine

def programName : Text := "treeinspect"

def versionText : Text := programName ++ (" 1.0.0\n" : Text)

def usageText : Text := Text.joinLines [
  "usage: treeinspect [-h] [--no-positions] [--color | --no-color] [--debug]",
  "                   [--log-file LOG_FILE] [--version]",
  "                   [FILE ...]",
  ""]

def helpText : Text := usageText ++ Text.joinLines [
  "",
  "Print a readable dump of JSON syntax trees (unist-style nodes).",
  "",
  "positional arguments:",
  "  FILE                 JSON files holding a node, a list of nodes or any value",
  "                       ('-' for stdin).",
  "",
  "options:",
  "  -h, --help           show this help message and exit",
  "  --no-positions       Omit the (line:column-line:column, offset-offset)",
  "                       suffixes.",
  "  --color              Style the output with ANSI escape codes.",
  "  --no-color           Plain text output (default).",
  "  --debug              Elevate logging verbosity to DEBUG.",
  "  --log-file LOG_FILE  Also write diagnostics to a rotating log file.",
  "  --version            show program's version number and exit",
  ""]

def errorText (fault : Fault) : Text :=
  usageText ++ programName ++ (": error: " : Text) ++ fault.message ++ ("\n" : Text)

structure Ending where
  code : Nat
  stdout : Text
  stderr : Text
  deriving DecidableEq, Repr

def Stop.ending : Stop → Ending
  | .help => ⟨0, helpText, []⟩
  | .version => ⟨0, versionText, []⟩
  | .usage fault => ⟨2, [], errorText fault⟩

end TreeReport.CommandLine
