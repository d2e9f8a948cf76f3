import Signatures.Log.Pattern.Flags

/-!
# Atoms of an expression

An atom is a character, an escape or a place in the text. Which atoms are available depends on the
flags. Letters in either case, kinds of characters and edges of words are known for ASCII only, so
they need the flag of Unicode cleared; and an atom that matches a byte outside ASCII never is
available, as what is matched is text.
-/

namespace Signatures.Log.Pattern

/-- What an expression is made of, classes in brackets apart. -/
inductive Atom where
  /-- A character, which may have been written as the number of a byte. -/
  | character (c : Char) (asByte : Bool)
  /-- Any character, or any but a line feed. -/
  | anyCharacter
  /-- A digit, a blank character, a character of words, or any but these. -/
  | kind (negated : Bool)
  /-- Either end of a line or of the text. -/
  | limit
  /-- An edge of a word, or any place but these. -/
  | wordEdge
deriving DecidableEq

namespace Atom

def isAvailable (flags : Flags) : Atom → Bool
  | character c asByte =>
    if flags.unicode then !flags.caseless else !(asByte && 0x80 ≤ c.toNat)
  | anyCharacter => flags.unicode
  | kind negated => !flags.unicode && !negated
  | limit => true
  | wordEdge => !flags.unicode

/-- Whether an atom may stand in a class. A class of bytes holds characters of ASCII only. -/
def isMember (flags : Flags) : Atom → Bool
  | character c _ => if flags.unicode then !flags.caseless else c.toNat < 0x80
  | kind negated => !flags.unicode && !negated
  | _ => false

/-- Whether two atoms are the ends of a range, in ascending order. -/
def isRange (flags : Flags) : Atom → Atom → Bool
  | character c asByte, character d asByte' =>
    c.toNat ≤ d.toNat && (character c asByte).isMember flags && (character d asByte').isMember flags
  | _, _ => false

end Atom

def hexDigit? (c : Char) : Option Nat :=
  if c.isDigit then some (c.toNat - '0'.toNat)
  else if 'a' ≤ c ∧ c ≤ 'f' then some (c.toNat - 'a'.toNat + 10)
  else if 'A' ≤ c ∧ c ≤ 'F' then some (c.toNat - 'A'.toNat + 10)
  else none

/-- The number that goes on from `value` by some more hexadecimal digits. -/
def hexNumber (flags : Flags) (value : Nat) : Nat → Reader Nat
  | 0 => pure value
  | count + 1 => do
    flags.spacing
    let c ← Reader.next
    let digit ← Reader.ofOption (hexDigit? c)
    hexNumber flags (16 * value + digit) count

def codePoint (flags : Flags) (count : Nat) : Reader Char := do
  let n ← hexNumber flags 0 count
  Reader.ofOption (if n.isValidChar then some (Char.ofNat n) else none)

/-- The character that a letter, a punctuation mark or another character of ASCII stands for behind
a backslash. -/
def escaped? : Char → Option Char
  | 'a' => some '\x07'
  | 'f' => some '\x0c'
  | 'n' => some '\n'
  | 'r' => some '\r'
  | 't' => some '\t'
  | 'v' => some '\x0b'
  | c => if c.toNat < 0x80 && !c.isAlphanum then some c else none

def escape (flags : Flags) : Reader Atom := do
  match ← Reader.next with
  | 'x' => return .character (← codePoint flags 2) true
  | 'u' => return .character (← codePoint flags 4) false
  | 'U' => return .character (← codePoint flags 8) false
  | 'd' | 's' | 'w' => return .kind false
  | 'D' | 'S' | 'W' => return .kind true
  | 'A' | 'z' => return .limit
  | 'b' | 'B' | '<' | '>' => return .wordEdge
  | c => return .character (← Reader.ofOption (escaped? c)) false

/-- The atom that begins with a character. Only a backslash asks for more. -/
def literal (flags : Flags) (c : Char) : Reader Atom :=
  if c = '\\' then escape flags else pure (.character c false)

end Signatures.Log.Pattern
