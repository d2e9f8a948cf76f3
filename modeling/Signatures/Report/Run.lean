import Signatures.CommandLine.Arguments
import Signatures.Report.Tally
import Signatures.Text.Basic

/-!
# Running a command

A file is read before any signature, so that nothing else is written when it cannot be read. Its
lines that are not blank are signatures, after those of the command line.
-/

namespace Signatures

/-- The signatures in the bytes of a file: every line that is not blank. -/
def signaturesOfBytes (bytes : ByteArray) : Except ReadFailure (List String) :=
  match String.fromUTF8? bytes with
  | none => .error .notText
  | some s =>
    .ok (((Text.lines s.toList).filter fun line => Text.trim line ≠ []).map String.ofList)

def Files.signatures (files : Files) (file : String) : Except ReadFailure (List String) := do
  signaturesOfBytes (← files file)

def parseWithFile (files : Files) (filter : Log.Filter) (signatures : List String)
    (file : Option String) : Outcome :=
  match file with
  | none => parseAll filter signatures
  | some file =>
    match files.signatures file with
    | .ok more => parseAll filter (signatures ++ more)
    | .error failure => ⟨[.unreadable file failure], 1⟩

/-- Writes the tokens of a text, each on a line of its own. -/
def splitText (filter : Log.Filter) (source : String) (ds : List String) (mode : Mode) :
    Outcome :=
  let splitter := Splitter.ofDelimiters mode ds
  let log := Tally.logged filter [.splitting splitter.mode ds]
  ⟨log ++ (splitter.split source).map fun token => .output (token ++ "\n"), 0⟩

namespace CommandLine

/-- Runs a command under a filter of the log. -/
def Command.run (files : Files) (filter : Log.Filter) : Command → Outcome
  | parse signatures file => parseWithFile files filter signatures file
  | split source ds mode => splitText filter source ds mode

/-- Runs the command under the filter that its verbosity and the filter text select. -/
def Invocation.run (files : Files) (filterText : Option String) (i : Invocation) : Outcome :=
  i.command.run files (Log.Filter.select filterText i.verbosity)

def Stop.outcome : Stop → Outcome
  | help topic => ⟨[.output topic.text], 0⟩
  | version => ⟨[.output versionText], 0⟩
  | usage error => ⟨[.usage error], 2⟩

end CommandLine

def execute (files : Files) (filterText : Option String) (args : List String) : Outcome :=
  match CommandLine.read args with
  | .ok i => i.run files filterText
  | .error stop => stop.outcome

end Signatures
