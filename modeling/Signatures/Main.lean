import Signatures.Report.Run

/-!
# The program

Reads the file that the command line names, runs the command line, and writes its outcome.
-/

namespace Signatures

/-- The failure behind an error of the operating system. -/
def ReadFailure.ofError : IO.Error → ReadFailure
  | .noFileOrDirectory .. => notFound
  | .inappropriateType _ code _ => if code = 21 then isDirectory else notDirectory
  | .invalidArgument _ _ details =>
    if details = "name too long" then nameTooLong else other details
  | e => other (toString e)

def readFile (file : String) : IO (Except ReadFailure ByteArray) := do
  try
    return .ok (← IO.FS.readBinFile file)
  catch e => return .error (.ofError e)

/-- The file that a command line names, if it names one. -/
def fileOf (args : List String) : Option String :=
  match CommandLine.read args with
  | .ok ⟨_, .parse _ file⟩ => file
  | _ => none

def Write.send (w : Write) : IO Unit := do
  IO.print w.stdout
  IO.eprint w.stderr

end Signatures

open Signatures in
def main (args : List String) : IO UInt32 := do
  let filterText ← IO.getEnv "RUST_LOG"
  let bytes ← match fileOf args with
    | some file => readFile file
    | none => pure (.error .notFound)
  let outcome := execute (fun _ => bytes) filterText args
  outcome.writes.forM Write.send
  return outcome.code.toUInt32
