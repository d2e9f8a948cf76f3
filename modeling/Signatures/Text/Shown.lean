/-!
# What a terminal shows of a text

Some characters of a text are instructions to a terminal: the controls, and the sequences that an
escape character opens. `shown` is a text without them. Tabs, line ends, form feeds and spaces are
shown. Such a control suspends the sequence in which it occurs: the text is shown from there on up
to the next control that is not shown, and there the sequence goes on unless a character outside
ASCII was shown meanwhile. An escape character anywhere opens a sequence anew, and a cancel or
substitute character ends one.

Sequences that carry a string run up to a byte 9C of the encoded text, those that carry a command of
the operating system up to a bell character.
-/

namespace Signatures.Text

/-- Where a text stands in a sequence of instructions. -/
inductive Instruction where
  | none
  | escape
  | escapeIntermediate
  | control
  | deviceEntry
  | deviceParameter
  | deviceIntermediate
  | string
  | command
deriving DecidableEq

namespace Instruction

def isShownControl (c : Char) : Bool :=
  c = '\t' || c = '\n' || c = '\x0c' || c = '\r'

def isShown (c : Char) : Bool :=
  isShownControl c || (0x20 ≤ c.toNat && c ≠ '\x7f')

def between (first c last : Char) : Bool :=
  first ≤ c && c ≤ last

/-- Whether the encoding of a character ends a string. -/
def endsString (c : Char) : Bool :=
  (String.utf8EncodeChar c).contains 0x9c

def afterEscape (c : Char) : Instruction :=
  if between ' ' c '/' then escapeIntermediate
  else if c = '[' then control
  else if c = ']' then command
  else if c = 'P' then deviceEntry
  else if c = 'X' || c = '^' || c = '_' then string
  else if between '0' c '~' then none
  else escape

def afterDevice (state : Instruction) (c : Char) : Instruction :=
  if between ' ' c '/' then deviceIntermediate
  else if between '0' c ';' then
    if state = deviceIntermediate then string else deviceParameter
  else if between '<' c '?' then
    if state = deviceEntry then deviceParameter else string
  else if between '@' c '~' then string
  else state

/-- The state after one more character. Controls leave most states as they are. -/
def step (state : Instruction) (c : Char) : Instruction :=
  match state with
  | none => none
  | escape => afterEscape c
  | escapeIntermediate => if between '0' c '~' then none else escapeIntermediate
  | control => if between '@' c '~' then none else control
  | deviceEntry | deviceParameter | deviceIntermediate => afterDevice state c
  | string => if endsString c then none else string
  | command => if c = '\x07' then none else command

/-- Whether a shown control suspends a sequence in this state. -/
def isSuspensible : Instruction → Bool
  | none | escape | escapeIntermediate | control => true
  | _ => false

/-- Whether a character is shown. A text that is shown goes on with any that is no instruction; one
that is not is resumed outside of sequences, or where a control suspends one. -/
def shows (state : Instruction) (isShowing : Bool) (c : Char) : Bool :=
  isShown c && (isShowing || state = none || (state.isSuspensible && isShownControl c))

def afterShown (state : Instruction) (c : Char) : Instruction :=
  if 0x80 ≤ c.toNat then none else state

end Instruction

/-- What is shown of a text that begins in a state, while the text is shown or not. -/
def shownFrom (isShowing : Bool) (state : Instruction) : List Char → List Char
  | [] => []
  | c :: rest =>
    if c = '\x1b' then shownFrom false .escape rest
    else if c = '\x18' || c = '\x1a' then shownFrom false .none rest
    else if state.shows isShowing c then
      c :: shownFrom true (state.afterShown c) rest
    else shownFrom false (state.step c) rest

def shown (s : String) : String :=
  String.ofList (shownFrom false .none s.toList)

end Signatures.Text
