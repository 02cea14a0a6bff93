import InstancedAreas.CommandLine

/-! The explanations of the commands, line by line. -/
namespace InstancedAreas.CommandLine

/-- The explanation of all subcommands. -/
def overview : List String :=
  ["Instanced area admission control CLI",
    "",
    "Usage: warden <COMMAND>",
    "",
    "Commands:",
    "  check      Validate a configuration and summarise it",
    "  templates  List configured templates",
    "  simulate   Run admissions against an in-memory warden",
    "  gate       Show what a gate decides for a state",
    "  version    Version information",
    "  help       Print this message or the help of the given subcommand(s)",
    "",
    "Options:",
    "  -h, --help     Print help",
    "  -V, --version  Print version"]

/-- The explanation of a subcommand. -/
def explanation : Verb → List String
  | .check =>
    ["Validate a configuration and summarise it",
      "",
      "Usage: warden check [CONFIG]",
      "",
      "Arguments:",
      "  [CONFIG]  Configuration file (defaults to warden.toml / WARDEN_* layering)",
      "",
      "Options:",
      "  -h, --help  Print help"]
  | .templates =>
    ["List configured templates",
      "",
      "Usage: warden templates [CONFIG]",
      "",
      "Arguments:",
      "  [CONFIG]  Configuration file",
      "",
      "Options:",
      "  -h, --help  Print help"]
  | .simulate =>
    ["Run admissions against an in-memory warden",
      "",
      "Usage: warden simulate [OPTIONS] --template <TEMPLATE> [CONFIG]",
      "",
      "Arguments:",
      "  [CONFIG]  Configuration file",
      "",
      "Options:",
      "  -t, --template <TEMPLATE>  Template to admit into",
      "  -n, --requests <REQUESTS>  Number of requests [default: 1]",
      "      --party <PARTY>        Send every request from this party; the first requester leads it",
      "      --expire               Advance past the template lifetime and sweep afterwards",
      "      --json                 Print lifecycle events as JSON lines",
      "  -h, --help                 Print help"]
  | .gate =>
    ["Show what a gate decides for a state",
      "",
      "Usage: warden gate [OPTIONS] --gate <GATE> [CONFIG]",
      "",
      "Arguments:",
      "  [CONFIG]  Configuration file",
      "",
      "Options:",
      "  -g, --gate <GATE>    Gate name",
      "  -s, --state <STATE>  State label (defaults to the gate's current scheduled state)",
      "  -h, --help           Print help"]
  | .version =>
    ["Version information",
      "",
      "Usage: warden version",
      "",
      "Options:",
      "  -h, --help  Print help"]
  | .help =>
    ["Print this message or the help of the given subcommand(s)",
      "",
      "Usage: warden help [COMMAND]...",
      "",
      "Arguments:",
      "  [COMMAND]...  Print help for the subcommand(s)"]

/-- The explanation that is asked for. -/
def helpLines : Option Verb → List String
  | none => overview
  | some verb => explanation verb

end InstancedAreas.CommandLine
