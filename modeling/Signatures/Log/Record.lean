/-!
# Log records and their levels

A record has a level, a target that names the part of the program it comes from, a message and
fields. It is written on one line. The levels run from errors to traces, each telling more than the
one before. A threshold admits the levels up to its own; the threshold that is off admits none.
-/

namespace Signatures.Log

/-- How much detail a record tells. -/
inductive Level where
  | error
  | warn
  | info
  | debug
  | trace
deriving DecidableEq

namespace Level

def rank : Level → Nat
  | error => 1
  | warn => 2
  | info => 3
  | debug => 4
  | trace => 5

def label : Level → String
  | error => "ERROR"
  | warn => "WARN"
  | info => "INFO"
  | debug => "DEBUG"
  | trace => "TRACE"

end Level

/-- The most detailed level that is admitted, or none when the log is off. -/
abbrev Threshold : Type := Option Level

namespace Threshold

def rank : Threshold → Nat
  | none => 0
  | some level => level.rank

/-- A threshold admits the levels up to its own. -/
def admits (t : Threshold) (level : Level) : Bool :=
  level.rank ≤ rank t

def ofRank? : Nat → Option Threshold
  | 0 => some none
  | 1 => some (some .error)
  | 2 => some (some .warn)
  | 3 => some (some .info)
  | 4 => some (some .debug)
  | 5 => some (some .trace)
  | _ => none

/-- A number in decimal digits, which may follow a plus sign. -/
def number? (s : List Char) : Option Nat :=
  let digits := match s with
    | '+' :: rest => rest
    | _ => s
  if digits.isEmpty || !digits.all Char.isDigit then none
  else some (digits.foldl (fun n c => 10 * n + (c.toNat - '0'.toNat)) 0)

/-- A threshold by its rank or by its name, in any case of the letters of ASCII. -/
def ofName? (name : List Char) : Option Threshold :=
  match (number? name).bind ofRank? with
  | some t => some t
  | none =>
    match String.ofList (name.map Char.toLower) with
    | "off" => some none
    | "error" => some (some .error)
    | "warn" => some (some .warn)
    | "info" => some (some .info)
    | "debug" => some (some .debug)
    | "trace" => some (some .trace)
    | _ => none

end Threshold

/-- One entry of the log. The values of the fields are written out. -/
structure Record where
  level : Level
  target : String
  message : String
  fields : List (String × String)
deriving DecidableEq

/-- The label of a level, filled up with spaces on the left to the width of the longest. -/
def Level.column (level : Level) : String :=
  "".pushn ' ' (5 - level.label.length) ++ level.label

def Record.line (r : Record) : String :=
  r.level.column ++ " " ++ r.target ++ ": " ++ r.message
    ++ String.join (r.fields.map fun (name, value) => " " ++ name ++ "=" ++ value)

end Signatures.Log
