import Signatures.Log.Filter
import Signatures.Log.Message
import Signatures.Report.Write
import Signatures.Signature.Basic

/-!
# Reading many signatures

Every signature is read and reported by itself, in order: the log records of its events, then its
structure, or a complaint. A tally keeps what has been written and counts the complaints, which are
summed up at the end. The counter has 32 bits and a sign: it is right below 2^31 complaints.
-/

namespace Signatures

/-- What has been written so far, and how many signatures were malformed. -/
structure Tally where
  writes : List Write
  malformed : Int32

namespace Tally

def empty : Tally := ⟨[], 0⟩

def logged (filter : Log.Filter) (records : List Log.Record) : List Write :=
  (records.filter filter.admits).map .log

def add (filter : Log.Filter) (t : Tally) (signature : String) : Tally :=
  let reading := Signature.read signature
  let log := logged filter (reading.events.map Event.record)
  match reading.result with
  | .ok m =>
    ⟨t.writes ++ log ++ [.output (m.layout.render (.indented 0) ++ "\n")], t.malformed⟩
  | .error e => ⟨t.writes ++ log ++ [.rejected signature e], t.malformed + 1⟩

/-- Ends with a failure when one of `total` signatures was malformed. -/
def outcome (t : Tally) (total : Nat) : Outcome :=
  if 0 < t.malformed then ⟨t.writes ++ [.malformed t.malformed total], 1⟩
  else ⟨t.writes, 0⟩

end Tally

def parseAll (filter : Log.Filter) (signatures : List String) : Outcome :=
  (signatures.foldl (Tally.add filter) .empty).outcome signatures.length

end Signatures
