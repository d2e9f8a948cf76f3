/-!
# Readers

A reader takes a value off the front of a text or refuses the text. Readers are composed from
smaller ones; `words` divides a text at every occurrence of a separator.
-/

namespace Signatures

/-- A value taken off the front of a text, with the text that follows it. -/
def Reader (α : Type) : Type :=
  List Char → Option (α × List Char)

namespace Reader

variable {α β σ : Type}

instance : Monad Reader where
  pure a := fun s => some (a, s)
  bind r next := fun s => (r s).bind fun (a, rest) => next a rest

/-- The longest possibly empty beginning in which `stop` holds of no character. -/
def takeTill (stop : Char → Bool) : Reader (List Char) :=
  fun s => some (s.span fun c => !stop c)

def satisfying (p : Char → Bool) : Reader Char
  | [] => none
  | c :: rest => if p c then some (c, rest) else none

def next : Reader Char :=
  satisfying fun _ => true

/-- Takes nothing and gives `a`, or refuses the text where there is none. -/
def ofOption (a : Option α) : Reader α :=
  fun s => a.map fun a => (a, s)

def require (p : Bool) : Reader Unit :=
  ofOption (if p then some () else none)

/-- What `f` finds in the text ahead, of which nothing is taken. -/
def ahead (f : List Char → β) : Reader β :=
  fun s => some (f s, s)

/-- Reads what `r` reads, or nothing where `r` refuses. -/
def optional (r : Reader α) : Reader (Option α) :=
  fun s => match r s with
    | some (a, rest) => some (some a, rest)
    | none => some (none, s)

def remainder : Reader (List Char) :=
  fun s => some (s, [])

/-- As many rounds of `separator` and `item` as the text holds. A text that holds more than `limit`
rounds is refused. -/
def rounds (separator : Reader β) (item : Reader α) : Nat → Reader (List α)
  | limit, s =>
    match (do let _ ← separator; item : Reader α) s, limit with
    | none, _ => some ([], s)
    | some _, 0 => none
    | some (a, rest), limit + 1 =>
      (rounds separator item limit rest).map fun (as, last) => (a :: as, last)

/-- `Repeats separator item s as last` says that rounds of `separator` and `item` take `as` off the
text `s` and come to their end before `last`, where one of the two refuses the text. No separator
takes nothing. -/
inductive Repeats (separator : Reader β) (item : Reader α) :
    List Char → List α → List Char → Prop
  | noSeparator {s : List Char} : separator s = none → Repeats separator item s [] s
  | noItem {s rest : List Char} {b : β} : separator s = some (b, rest) → rest.length < s.length →
      item rest = none → Repeats separator item s [] s
  | round {s behind rest last : List Char} {b : β} {a : α} {as : List α} :
      separator s = some (b, behind) → behind.length < s.length → item behind = some (a, rest) →
      Repeats separator item rest as last → Repeats separator item s (a :: as) last

/-- One `item` or more, with a `separator` between any two. A text holds no more rounds than
characters unless a round takes nothing, and then there would be no end of them. -/
def separatedBy (separator : Reader β) (item : Reader α) : Reader (List α) :=
  fun s => (item s).bind fun (first, rest) =>
    (rounds separator item rest.length rest).map fun (others, last) => (first :: others, last)

/-- The state to which the steps through a whole text lead. Each step is given the first character
and reads on behind it; one that leaves a longer text than it was given would have no end, and it is
refused. -/
def stepwise (step : σ → Char → Reader σ) (state : σ) : List Char → Option σ
  | [] => some state
  | c :: rest =>
    (step state c rest).bind fun (state, left) =>
      if left.length ≤ rest.length then stepwise step state left else none
termination_by s => s.length

/-- What `r` reads when it leaves nothing of the text. -/
def complete (r : Reader α) (s : List Char) : Option α :=
  match r s with
  | some (a, []) => some a
  | _ => none

end Reader

/-- The pieces of a text between single occurrences of `separator`, empty pieces included. -/
def words (separator : Char) : List Char → Option (List (List Char)) :=
  Reader.complete <|
    Reader.separatedBy (Reader.satisfying (· = separator)) (Reader.takeTill (· = separator))

end Signatures
