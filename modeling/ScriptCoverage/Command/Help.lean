/-!
# Help texts

What the program prints when it is asked for help, laid out for a terminal of 80 columns.

Specification: section 11, the help of the subcommands.
-/

namespace ScriptCoverage.Help

private def page (lines : List String) : String := String.join (lines.map (· ++ "\n"))

/-- The help text of the program. -/
def program : String := page
  ["usage: tailwindcov [-h] [--version] [--debug] [--verbose] [--quiet]",
   "                   \x7brun,fetch,instrument,status\x7d ...",
   "",
   "tailwindcov - statement coverage for JavaScript by source instrumentation.",
   "",
   "options:",
   "  -h, --help            show this help message and exit",
   "  --version             Show tailwindcov version and exit.",
   "  --debug               Enable debug logging.",
   "  --verbose, -v         Enable verbose (info-level) logging.",
   "  --quiet, -q           Reduce logging output to errors only.",
   "",
   "commands:",
   "  \x7brun,fetch,instrument,status\x7d",
   "    run                 Instrument and run a JavaScript file, then report",
   "                        coverage.",
   "    fetch               Download a JavaScript file, run it and report",
   "                        coverage.",
   "    instrument          Print the instrumented version of a JavaScript file.",
   "    status              Show version, available plugins and configuration."]

/-- The help text of the command `run`. -/
def run : String := page
  ["usage: tailwindcov run [-h] [--format \x7btext,html,json,summary\x7d]",
   "                       [--output FILE] [--fail-under PERCENT] [--sandbox NAME]",
   "                       [--probe-name IDENTIFIER] [--config PATH]",
   "                       path",
   "",
   "Inject tracking probes into a script, execute it in a sandbox and report which",
   "statements ran.",
   "",
   "positional arguments:",
   "  path                  JavaScript file to run.",
   "",
   "options:",
   "  -h, --help            show this help message and exit",
   "  --config PATH         Path to config file (default: .tailwindcov.yml in the",
   "                        current directory).",
   "",
   "output:",
   "  --format \x7btext,html,json,summary\x7d",
   "                        Report format (default: text, or as specified in",
   "                        config file).",
   "  --output FILE, -o FILE",
   "                        Write the report to FILE instead of stdout.",
   "",
   "configuration:",
   "  --fail-under PERCENT  Exit with code 1 if fewer than PERCENT of the units",
   "                        executed.",
   "  --sandbox NAME        Sandbox plugin that executes the script (default:",
   "                        quickjs).",
   "  --probe-name IDENTIFIER",
   "                        Global function name the injected probes call."]

/-- The help text of the command `fetch`. -/
def fetch : String := page
  ["usage: tailwindcov fetch [-h] [--timeout SECONDS]",
   "                         [--format \x7btext,html,json,summary\x7d] [--output FILE]",
   "                         [--fail-under PERCENT] [--sandbox NAME]",
   "                         [--probe-name IDENTIFIER] [--config PATH]",
   "                         url",
   "",
   "Retrieve a remote script over HTTP(S) and run it like 'run'.",
   "",
   "positional arguments:",
   "  url                   URL of the script.",
   "",
   "options:",
   "  -h, --help            show this help message and exit",
   "  --timeout SECONDS     Network timeout in seconds (default: 30).",
   "  --config PATH         Path to config file (default: .tailwindcov.yml in the",
   "                        current directory).",
   "",
   "output:",
   "  --format \x7btext,html,json,summary\x7d",
   "                        Report format (default: text, or as specified in",
   "                        config file).",
   "  --output FILE, -o FILE",
   "                        Write the report to FILE instead of stdout.",
   "",
   "configuration:",
   "  --fail-under PERCENT  Exit with code 1 if fewer than PERCENT of the units",
   "                        executed.",
   "  --sandbox NAME        Sandbox plugin that executes the script (default:",
   "                        quickjs).",
   "  --probe-name IDENTIFIER",
   "                        Global function name the injected probes call."]

/-- The help text of the command `instrument`. -/
def instrument : String := page
  ["usage: tailwindcov instrument [-h] [--output FILE] [--probe-name IDENTIFIER]",
   "                              [--config PATH]",
   "                              path",
   "",
   "Show the executable text produced by probe injection, without running it.",
   "",
   "positional arguments:",
   "  path                  JavaScript file to instrument.",
   "",
   "options:",
   "  -h, --help            show this help message and exit",
   "  --output FILE, -o FILE",
   "                        Write the instrumented script to FILE instead of",
   "                        stdout.",
   "  --probe-name IDENTIFIER",
   "                        Global function name the injected probes call.",
   "  --config PATH         Path to config file (default: .tailwindcov.yml in the",
   "                        current directory)."]

/-- The help text of the command `status`. -/
def status : String := page
  ["usage: tailwindcov status [-h] [--config PATH]",
   "",
   "Display tailwindcov version, installed sandbox and reporter plugins, and the",
   "effective configuration.",
   "",
   "options:",
   "  -h, --help     show this help message and exit",
   "  --config PATH  Path to config file (default: .tailwindcov.yml in the current",
   "                 directory)."]

end ScriptCoverage.Help
