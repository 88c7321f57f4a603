import Traversal.Command.Invocation

/-! # Help texts -/

namespace Traversal

def helpLines : Option CommandName → List String
  | none =>
    ["Gremlin query builder for the Cayley graph database",
     "",
     "Usage: cayley [OPTIONS] <COMMAND>",
     "",
     "Commands:",
     "  render    Print the serialized query without sending it",
     "  query     Execute the query and print one JSON object per record",
     "  settings  Print the resolved endpoint",
     "  help      Print this message or the help of the given subcommand(s)",
     "",
     "Options:",
     "  -v, --verbose...  Log verbosity on stderr (-v info, -vv debug, -vvv trace)",
     "  -h, --help        Print help",
     "  -V, --version     Print version"]
  | some .render =>
    ["Print the serialized query without sending it",
     "",
     "Usage: cayley render [OPTIONS] <STEPS>...",
     "",
     "Arguments:",
     "  <STEPS>...  Steps, root first: `V='[\"id\"]' Out='[\"pred\"]' All`",
     "",
     "Options:",
     "  -v, --verbose...  Log verbosity on stderr (-v info, -vv debug, -vvv trace)",
     "  -h, --help        Print help"]
  | some .query =>
    ["Execute the query and print one JSON object per record",
     "",
     "Usage: cayley query [OPTIONS] <STEPS>...",
     "",
     "Arguments:",
     "  <STEPS>...  Steps, root first: `V='[\"id\"]' Out='[\"pred\"]' All`",
     "",
     "Options:",
     "      --distinct       Drop repeated records",
     "  -v, --verbose...     Log verbosity on stderr (-v info, -vv debug, -vvv trace)",
     "      --clean          Strip the Freebase URI prefix and unwrap literals in `--lang`",
     "      --lang <LANG>    Keep only records whose literals are in this language",
     "      --limit <LIMIT>  End with `GetLimit(N)` instead of `All()`",
     "  -h, --help           Print help"]
  | some .settings =>
    ["Print the resolved endpoint",
     "",
     "Usage: cayley settings [OPTIONS]",
     "",
     "Options:",
     "  -v, --verbose...  Log verbosity on stderr (-v info, -vv debug, -vvv trace)",
     "  -h, --help        Print help"]

end Traversal
