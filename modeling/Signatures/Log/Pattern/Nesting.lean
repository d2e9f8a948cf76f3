/-!
# Nesting of an expression

Only the nesting of the parts of an expression is kept as they are read. Characters, escapes and
changes of flags are not nested. Whatever holds one or several parts is nested one deeper than the
deepest of them: a group, a class in brackets, a repetition, and two or more parts side by side.
-/

namespace Signatures.Log.Pattern

/-- The nesting of parts that stand side by side. A part alone is no deeper for it. -/
def sideBySide : List Nat → Nat
  | [] => 0
  | [depth] => depth
  | depths => depths.foldl max 0 + 1

/-- A class in brackets as far as it has been read: the nesting of the operand before the last
operator and that of the members behind it, the last of them first. Until the class has opened, a
hyphen or a bracket is a member. -/
structure Bracket where
  operand : Option Nat
  members : List Nat
  isOpening : Bool

namespace Bracket

def empty : Bracket :=
  ⟨none, [], true⟩

/-- The nesting of what the brackets hold. An operator holds the operands at its sides. -/
def nesting (b : Bracket) : Nat :=
  match b.operand with
  | none => sideBySide b.members
  | some depth => max depth (sideBySide b.members) + 1

def add (b : Bracket) (depth : Nat) : Bracket :=
  { b with members := depth :: b.members }

def operate (b : Bracket) : Bracket :=
  ⟨some b.nesting, [], false⟩

end Bracket

/-- A part of a sequence, by its nesting unless it only changes flags. -/
inductive Part where
  | change
  | operand (depth : Nat)

def Part.nesting : Part → Nat
  | change => 0
  | operand depth => depth

/-- The alternatives of a group as far as they have been read: the nesting of those that have ended,
and the parts of the last one, the last of them first. -/
structure Alternatives where
  ended : List Nat
  parts : List Part

namespace Alternatives

def empty : Alternatives :=
  ⟨[], []⟩

def lastNesting (a : Alternatives) : Nat :=
  sideBySide (a.parts.map Part.nesting)

def nesting (a : Alternatives) : Nat :=
  sideBySide (a.lastNesting :: a.ended)

def add (a : Alternatives) (part : Part) : Alternatives :=
  { a with parts := part :: a.parts }

def alternate (a : Alternatives) : Alternatives :=
  ⟨a.lastNesting :: a.ended, []⟩

/-- The last part is repeated. A change of flags cannot be, nor can nothing. -/
def repeat? (a : Alternatives) : Option Alternatives :=
  match a.parts with
  | .operand depth :: others => some { a with parts := .operand (depth + 1) :: others }
  | _ => none

end Alternatives

end Signatures.Log.Pattern
