import ProcessStubs.Text.Split

/-!
# Manual

The help texts of the program and its commands. Each begins with a line that shows the usage.
-/

namespace ProcessStubs.CommandLine

/-- What there is help for: the program or one of its commands. -/
inductive Topic where
  | program
  | generate
  | config
  | version
deriving Repr, DecidableEq

namespace Topic

/-- The words that call the program or a command. -/
def call : Topic → String
  | program => "bpmngen"
  | generate => "bpmngen generate"
  | config => "bpmngen config"
  | version => "bpmngen version"

/-- What can follow the call. -/
def parameters : Topic → String
  | program => "[OPTIONS] [COMMAND] [ARGS]..."
  | generate => "[OPTIONS] [SOURCE_DIR]"
  | config | version => "[OPTIONS]"

/-- The line that shows the usage. -/
def usage (t : Topic) : String := "Usage: " ++ t.call ++ " " ++ t.parameters

/-- The lines of a help text after the usage. -/
def helpLines : Topic → List String
  | program => [
    "",
    "  Generate Python service stubs from BPMN process definitions.",
    "",
    "Options:",
    "  -q, --quiet    Only report errors.",
    "  -v, --verbose  Increase verbosity. Specify up to three times for more detail.",
    "  --no-color     Disable ANSI colors in program output.",
    "  -h, --help     Show this message and exit.",
    "",
    "Commands:",
    "  config    Show the effective configuration as TOML.",
    "  generate  Generate service and interface stubs from BPMN process...",
    "  version   Show the current version of bpmngen."]
  | generate => [
    "",
    "  Generate service and interface stubs from BPMN process definitions.",
    "",
    "Options:",
    "  --config FILE                   Read settings from this TOML file instead of",
    "                                  discovering bpmngen.toml / pyproject.toml in",
    "                                  the working directory.",
    "  -o, --output-dir DIRECTORY      Root directory of the generated sources.",
    "  -p, --package TEXT              Dotted Python package of the generated",
    "                                  modules.",
    "  --runtime-service TEXT          'module:Name' of the runtime service injected",
    "                                  into process services.",
    "  -e, --exclude TEXT              Skip documents matching these gitignore-style",
    "                                  patterns (relative to SOURCE_DIR).",
    "  --on-collision [warn|error|overwrite]",
    "                                  What to do when two units generate the same",
    "                                  module (default: warn).",
    "  --dry-run                       Render units without writing them.",
    "  --no-init-files                 Do not create __init__.py files in the",
    "                                  generated package directories.",
    "  -h, --help                      Show this message and exit."]
  | config => [
    "",
    "  Show the effective configuration as TOML.",
    "",
    "Options:",
    "  --config FILE  Read settings from this TOML file instead of discovering",
    "                 bpmngen.toml / pyproject.toml in the working directory.",
    "  -h, --help     Show this message and exit."]
  | version => [
    "",
    "  Show the current version of bpmngen.",
    "",
    "Options:",
    "  -h, --help  Show this message and exit."]

/-- The help text. -/
def help (t : Topic) : String := Text.joinWith "\n" (t.usage :: t.helpLines)

end Topic

/-- The version of the program. -/
def programVersion : String := "0.1.0"

/-- What the program says when it is called without a command. -/
def commandHint : String := "Hint: use 'bpmngen generate [SOURCE_DIR]' to generate code."

end ProcessStubs.CommandLine
