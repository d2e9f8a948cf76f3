import Signatures.Splitter.Basic

/-!
# Commands

What a command line asks for: to read signatures, given as words and as the lines of a file, or to
split a text. A command line may also ask only for help or for the version, or it may be faulty.
-/

namespace Signatures.CommandLine

inductive Command where
  | parse (signatures : List String) (file : Option String)
  | split (source : String) (delimiters : List String) (mode : Mode)
deriving DecidableEq

/-- A command, and how often more detail of the log is requested. -/
structure Invocation where
  verbosity : Nat
  command : Command
deriving DecidableEq

inductive Flag where
  | verbose
  | whole
  | help
  | version
deriving DecidableEq

inductive Setting where
  | file
  | delimiter
deriving DecidableEq

/-- A part of the interface with a help text of its own. -/
inductive Topic where
  | program
  | parse
  | split
  | help
deriving DecidableEq

inductive UsageError where
  | noArguments
  | noCommand
  | unknownCommand (word : String)
  | unexpectedArgument (word : String)
  | unexpectedValue (flag : Flag) (value : String)
  | valueMissing (setting : Setting)
  | repeatedFlag (flag : Flag)
  | repeatedSetting (setting : Setting)
  | argumentsMissing
deriving DecidableEq

inductive Stop where
  | help (topic : Topic)
  | version
  | usage (error : UsageError)
deriving DecidableEq

end Signatures.CommandLine
