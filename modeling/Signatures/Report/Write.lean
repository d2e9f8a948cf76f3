import Signatures.CommandLine.Help
import Signatures.Log.Record
import Signatures.Report.Files
import Signatures.Signature.Basic

/-!
# What the program writes

The program writes to two streams. Results go to the output; log records and complaints go, each
when it arises, to the error stream. An outcome is all that is written, in order, with the code
that the program ends with.
-/

namespace Signatures

inductive Write where
  | output (text : String)
  | log (record : Log.Record)
  | rejected (signature : String) (rejection : Rejection)
  | malformed (count : Int32) (total : Nat)
  | unreadable (file : String) (failure : ReadFailure)
  | usage (error : CommandLine.UsageError)
deriving DecidableEq

namespace Write

def stdout : Write → String
  | output text => text
  | _ => ""

def stderr : Write → String
  | output _ => ""
  | log record => record.line ++ "\n"
  | rejected signature rejection => signature ++ ": " ++ rejection.message ++ "\n"
  | malformed count total =>
    "Error: " ++ toString count ++ " of " ++ toString total ++ " signatures are malformed\n"
  | unreadable file failure =>
    "Error: failed to read `" ++ file ++ "`\n\nCaused by:\n    " ++ failure.reason ++ "\n"
  | usage error => error.message

@[simp] theorem stdout_output (text : String) : (output text).stdout = text := rfl

@[simp] theorem stdout_log (record : Log.Record) : (log record).stdout = "" := rfl

@[simp] theorem stdout_rejected (signature : String) (rejection : Rejection) :
    (rejected signature rejection).stdout = "" := rfl

@[simp] theorem stdout_malformed (count : Int32) (total : Nat) :
    (malformed count total).stdout = "" := rfl

@[simp] theorem stdout_unreadable (file : String) (failure : ReadFailure) :
    (unreadable file failure).stdout = "" := rfl

@[simp] theorem stderr_output (text : String) : (output text).stderr = "" := rfl

@[simp] theorem stderr_rejected (signature : String) (rejection : Rejection) :
    (rejected signature rejection).stderr = signature ++ ": " ++ rejection.message ++ "\n" := rfl

@[simp] theorem stderr_malformed (count : Int32) (total : Nat) :
    (malformed count total).stderr =
      "Error: " ++ toString count ++ " of " ++ toString total ++
        " signatures are malformed\n" := rfl

@[simp] theorem stderr_unreadable (file : String) (failure : ReadFailure) :
    (unreadable file failure).stderr =
      "Error: failed to read `" ++ file ++ "`\n\nCaused by:\n    " ++ failure.reason ++ "\n" := rfl

def isLog : Write → Bool
  | log _ => true
  | _ => false

end Write

/-- All that a run of the program writes, and its exit code. -/
structure Outcome where
  writes : List Write
  code : Nat
deriving DecidableEq

namespace Outcome

def stdout (o : Outcome) : String :=
  String.join (o.writes.map Write.stdout)

def stderr (o : Outcome) : String :=
  String.join (o.writes.map Write.stderr)

end Outcome

end Signatures
