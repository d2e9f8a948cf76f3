import Signatures.CommandLine.Command
import Signatures.Text.Shown

/-!
# Help texts and messages

The texts that describe the interface, and the messages about faulty command lines.
-/

namespace Signatures.CommandLine

def purpose : String := "Parse Java-like method signatures"

def Topic.lines : Topic → List String
  | program =>
    [purpose,
     "",
     "Usage: methodsig [OPTIONS] <COMMAND>",
     "",
     "Commands:",
     "  parse  Parse method signatures and print their structure",
     "  split  Split text on a set of delimiters, printing one token per line",
     "  help   Print this message or the help of the given subcommand(s)",
     "",
     "Options:",
     "  -v, --verbose...  Log more; repeat for more detail. `RUST_LOG` takes precedence",
     "  -h, --help        Print help",
     "  -V, --version     Print version"]
  | parse =>
    ["Parse method signatures and print their structure",
     "",
     "Usage: methodsig parse [OPTIONS] [SIGNATURES]...",
     "",
     "Arguments:",
     "  [SIGNATURES]...  ",
     "",
     "Options:",
     "  -f, --file <FILE>  Also parse every non-blank line of this file",
     "  -v, --verbose...   Log more; repeat for more detail. `RUST_LOG` takes precedence",
     "  -h, --help         Print help"]
  | split =>
    ["Split text on a set of delimiters, printing one token per line",
     "",
     "Usage: methodsig split [OPTIONS] --delimiter <DELIMITERS> <SOURCE>",
     "",
     "Arguments:",
     "  <SOURCE>  ",
     "",
     "Options:",
     "  -d, --delimiter <DELIMITERS>  ",
     "  -v, --verbose...              Log more; repeat for more detail. `RUST_LOG` takes precedence",
     "      --whole                   Match each delimiter as a whole instead of by its characters",
     "  -h, --help                    Print help"]
  | help =>
    ["Print this message or the help of the given subcommand(s)",
     "",
     "Usage: methodsig help [COMMAND]...",
     "",
     "Arguments:",
     "  [COMMAND]...  Print help for the subcommand(s)"]

def Topic.text (t : Topic) : String :=
  String.join (t.lines.map (· ++ "\n"))

def versionText : String := "methodsig 0.1.0\n"

def Flag.label : Flag → String
  | verbose => "--verbose..."
  | whole => "--whole"
  | help => "--help"
  | version => "--version"

def Setting.label : Setting → String
  | file => "--file <FILE>"
  | delimiter => "--delimiter <DELIMITERS>"

def quoted (word : String) : String :=
  "'" ++ Text.shown word ++ "'"

def UsageError.message : UsageError → String
  | noArguments => Topic.program.text
  | noCommand => "error: 'methodsig' requires a subcommand but one was not provided\n"
  | unknownCommand word => "error: unrecognized subcommand " ++ quoted word ++ "\n"
  | unexpectedArgument word => "error: unexpected argument " ++ quoted word ++ " found\n"
  | unexpectedValue flag value =>
    "error: unexpected value " ++ quoted value ++ " for " ++ quoted flag.label
      ++ " found; no more were expected\n"
  | valueMissing setting =>
    "error: a value is required for " ++ quoted setting.label ++ " but none was supplied\n"
  | repeatedFlag flag =>
    "error: the argument " ++ quoted flag.label ++ " cannot be used multiple times\n"
  | repeatedSetting setting =>
    "error: the argument " ++ quoted setting.label ++ " cannot be used multiple times\n"
  | argumentsMissing => "error: the following required arguments were not provided:\n"

end Signatures.CommandLine
