/-!
# The scan for whole delimiters

A cursor walks over the UTF-8 bytes of a text. Where a delimiter begins it closes a token and moves
behind the delimiter; elsewhere it moves over one character. Every part of the text is taken by
`slice`, which refuses an offset outside the text or inside a character, and the number of moves is
limited by the number of bytes. The delimiters must not be empty, for an empty one would hold the
cursor where it is.
-/

namespace Signatures.Scan

/-- What would stop a scan before the end of its text. -/
inductive Fault where
  | offsets (first last : Nat)
  | endless
deriving DecidableEq

def slice (source : String) (first last : Nat) : Except Fault String.Slice :=
  match source.pos? ⟨first⟩, source.pos? ⟨last⟩ with
  | some p, some q =>
    if h : p ≤ q then .ok (source.slice p q h) else .error (.offsets first last)
  | _, _ => .error (.offsets first last)

/-- A place in a scan: where the open token starts, how far the text has been read, and the tokens
closed so far, the latest first. -/
structure Cursor where
  start : Nat
  position : Nat
  closed : List String
deriving DecidableEq

def Cursor.initial : Cursor := ⟨0, 0, []⟩

/-- The next place, or none at the end of the text. The first of the delimiters that begins at the
position is taken. -/
def step (source : String) (delimiters : List String) (c : Cursor) :
    Except Fault (Option Cursor) := do
  let rest ← slice source c.position source.utf8ByteSize
  match rest.front? with
  | none => return none
  | some next =>
    match delimiters.find? fun d => rest.startsWith d with
    | some d =>
      let token ← slice source c.start c.position
      let behind := c.position + d.utf8ByteSize
      return some ⟨behind, behind, token.copy :: c.closed⟩
    | none => return some { c with position := c.position + next.utf8Size }

/-- All tokens of a text from a place on, given a limit on the number of moves. -/
def run (source : String) (delimiters : List String) : Nat → Cursor → Except Fault (List String)
  | 0, _ => .error .endless
  | moves + 1, c => do
    match ← step source delimiters c with
    | some next => run source delimiters moves next
    | none =>
      let last ← slice source c.start source.utf8ByteSize
      return (last.copy :: c.closed).reverse.filter (· ≠ "")

/-- The non-empty tokens of a text between delimiters. No move is shorter than one byte. -/
def tokens (source : String) (delimiters : List String) : List String :=
  match run source delimiters (source.utf8ByteSize + 1) .initial with
  | .ok ts => ts
  | .error _ => []

/-- `Reaches source delimiters n c` says that a scan from the start of the text comes to the place
`c` by its move number `n`. -/
inductive Reaches (source : String) (delimiters : List String) : Nat → Cursor → Prop
  | initial : Reaches source delimiters 0 .initial
  | step {n : Nat} {c next : Cursor} : Reaches source delimiters n c →
      step source delimiters c = .ok (some next) → Reaches source delimiters (n + 1) next

end Signatures.Scan
