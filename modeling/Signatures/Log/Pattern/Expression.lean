import Signatures.Log.Pattern.Atom
import Signatures.Log.Pattern.Nesting
import Signatures.Text.Alphanumeric

/-!
# Regular expressions

A regular expression is read from its first character to its last, with its open groups and classes.
Groups may be named or change flags. A class may hold characters, ranges, kinds of characters, named
classes and classes in turn, between operators. Repetitions are not counted, and nothing looks
around.
-/

namespace Signatures.Log.Pattern

open Text

/-- A group that is open, with what stands before it and the flags in force outside of it. -/
structure OpenGroup where
  before : Alternatives
  flags : Flags

/-- An expression as far as it has been read. Open groups and classes are listed from the innermost;
while a class is open, no group can begin or end. -/
structure Expression where
  flags : Flags
  names : List (List Char)
  groups : List OpenGroup
  inner : Alternatives
  classes : List Bracket

namespace Expression

def empty : Expression :=
  ⟨.initial, [], [], .empty, []⟩

def add (e : Expression) (part : Part) : Expression :=
  { e with inner := e.inner.add part }

def addAtom (e : Expression) (atom : Atom) : Reader Expression := do
  Reader.require (atom.isAvailable e.flags)
  return e.add (.operand 0)

def openGroup (e : Expression) (flags : Flags) : Expression :=
  { e with flags, groups := ⟨e.inner, e.flags⟩ :: e.groups, inner := .empty }

/-- The innermost group ends, and with it the flags that were set in it. -/
def closeGroup? (e : Expression) : Option Expression :=
  match e.groups with
  | [] => none
  | g :: groups =>
    some { e with
      flags := g.flags
      groups
      inner := g.before.add (.operand (e.inner.nesting + 1)) }

/-- Whether a text names a group: a letter or an underscore, then also numbers, full stops and
brackets. -/
def isGroupName : List Char → Bool
  | [] => false
  | c :: rest =>
    (c = '_' || isAlphabetic c) &&
      rest.all fun c => isAlphanumeric c || "_.[]".toList.contains c

/-- What follows the angle bracket of a named group. No two groups have the same name. -/
def namedGroup (e : Expression) : Reader Expression := do
  let name ← Reader.takeTill (· = '>')
  let _ ← Reader.next
  Reader.require (isGroupName name && !e.names.contains name)
  return { e.openGroup e.flags with names := name :: e.names }

/-- Flags, which hold inside the group if a colon follows, and up to the end of the group around
them if a parenthesis does. -/
def flagged (e : Expression) : Reader Expression := do
  let letters ← Reader.takeTill fun c => c = ':' || c = ')'
  let close ← Reader.next
  let flags ← Reader.ofOption (e.flags.change? letters)
  if close = ':' then return e.openGroup flags
  Reader.require !letters.isEmpty
  return { e with flags }.add .change

/-- The angle bracket before the name of a group, after which a letter may stand. -/
def nameMark : Reader Char := do
  let _ ← Reader.optional (Reader.satisfying (· = 'P'))
  Reader.satisfying (· = '<')

def group (e : Expression) : Reader Expression := do
  e.flags.spacing
  match ← Reader.optional (Reader.satisfying (· = '?')) with
  | none => return e.openGroup e.flags
  | some _ =>
    match ← Reader.optional nameMark with
    | some _ => e.namedGroup
    | none => e.flagged

def classNames : List String :=
  ["alnum", "alpha", "ascii", "blank", "cntrl", "digit", "graph", "lower", "print", "punct",
   "space", "upper", "word", "xdigit"]

/-- A name between colons and a closing bracket, behind an opening bracket. A circumflex before the
name negates the class. -/
def namedClass : Reader Bool := do
  let _ ← Reader.satisfying (· = ':')
  let negation ← Reader.optional (Reader.satisfying (· = '^'))
  let name ← Reader.takeTill (· = ':')
  let _ ← Reader.next
  let _ ← Reader.satisfying (· = ']')
  Reader.require (classNames.contains (String.ofList name))
  return negation.isSome

/-- What follows the opening bracket of a class. A class of bytes that is negated holds bytes
outside ASCII and is refused. -/
def openClass (e : Expression) : Reader Expression := do
  e.flags.spacing
  let negation ← Reader.optional (Reader.satisfying (· = '^'))
  Reader.require (negation.isNone || e.flags.unicode)
  return { e with classes := .empty :: e.classes }

def closeClass (e : Expression) (b : Bracket) (outer : List Bracket) : Expression :=
  match outer with
  | [] => { e with classes := [] }.add (.operand (b.nesting + 1))
  | around :: outer => { e with classes := around.add (b.nesting + 1) :: outer }

/-- The character by which a hyphen is judged, from the text behind the hyphen. In the verbose form
it is the first one that is neither blank nor the first number sign. -/
def judge? (flags : Flags) (s : List Char) : Option Char :=
  if flags.verbose then
    let ahead := match s.dropWhile isBlank with
      | '#' :: rest => rest.dropWhile isBlank
      | other => other
    ahead.head?.or s.head?
  else s.head?

/-- Whether the text begins with the hyphen of a range. A hyphen at the end of a class is a member,
and two of them are an operator. -/
def isRangeAhead (flags : Flags) : List Char → Bool
  | '-' :: rest => judge? flags rest ≠ some ']' && judge? flags rest ≠ some '-'
  | _ => false

/-- A member of a class, or a range of them, from its first character on. -/
def member (flags : Flags) (c : Char) : Reader Unit := do
  let first ← literal flags c
  flags.spacing
  if ← Reader.ahead (isRangeAhead flags) then
    let _ ← Reader.next
    flags.spacing
    let last ← literal flags (← Reader.next)
    Reader.require (Atom.isRange flags first last)
  else
    Reader.require (first.isMember flags)

/-- Whether a character is an operator of classes when it stands twice: for what both sides have,
for what only the left one has, and for what only one of them has. -/
def isOperator (c : Char) : Bool :=
  "&-~".toList.contains c

def stepInClass (e : Expression) (b : Bracket) (outer : List Bracket) (c : Char) :
    Reader Expression := do
  let withMember (isOpening : Bool) : Expression :=
    { e with classes := { b.add 0 with isOpening } :: outer }
  if b.isOpening && (c = '-' || (c = ']' && b.members.isEmpty)) then
    Reader.require ((Atom.character c false).isMember e.flags)
    return withMember (c = '-')
  if c = ']' then return e.closeClass b outer
  if c = '[' then
    match ← Reader.optional namedClass with
    | some negated =>
      Reader.require (if e.flags.unicode then !e.flags.caseless else !negated)
      return withMember false
    | none =>
      return ← { e with classes := { b with isOpening := false } :: outer }.openClass
  if isOperator c then
    if (← Reader.optional (Reader.satisfying (· = c))).isSome then
      return { e with classes := b.operate :: outer }
  member e.flags c
  return withMember false

/-- Goes on outside of classes with a character. A brace would begin a counted repetition. -/
def stepInGroup (e : Expression) (c : Char) : Reader Expression :=
  match c with
  | '(' => e.group
  | ')' => Reader.ofOption e.closeGroup?
  | '|' => return { e with inner := e.inner.alternate }
  | '[' => e.openClass
  | '?' | '*' | '+' => do
    let inner ← Reader.ofOption e.inner.repeat?
    let _ ← Reader.optional (Reader.satisfying (· = '?'))
    return { e with inner }
  | '\x7b' => Reader.ofOption none
  | '.' => e.addAtom .anyCharacter
  | '^' | '$' => e.addAtom .limit
  | c => do e.addAtom (← literal e.flags c)

def step (e : Expression) (c : Char) : Reader Expression := do
  let e ← match e.classes with
    | [] => e.stepInGroup c
    | b :: outer => e.stepInClass b outer c
  e.flags.spacing
  return e

def nestingLimit : Nat :=
  250

/-- Whether nothing is left open and the nesting is within the limit. -/
def isComplete (e : Expression) : Bool :=
  e.groups.isEmpty && e.classes.isEmpty && e.inner.nesting ≤ nestingLimit

def isExpression (s : List Char) : Bool :=
  (Reader.stepwise step empty s).any isComplete

end Expression

end Signatures.Log.Pattern
