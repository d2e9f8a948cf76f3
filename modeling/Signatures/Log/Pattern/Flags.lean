import Signatures.Reader
import Signatures.Text.Basic

/-!
# Flags of an expression

The flags in force say how the rest of a group of an expression is read. Letters set them, and after
a hyphen clear them. In the verbose form, blank characters between the parts of an expression mean
nothing, and a comment runs from a number sign to the end of the line.
-/

namespace Signatures.Log.Pattern

open Text

/-- How an expression is read: letters in either case, characters rather than bytes, and the verbose
form. -/
structure Flags where
  caseless : Bool
  unicode : Bool
  verbose : Bool
deriving DecidableEq

namespace Flags

def initial : Flags :=
  ⟨false, true, false⟩

/-- The letters of flags. Those of lines, of greed and of the full stop change which texts match,
but not whether an expression is valid. -/
def isLetter (c : Char) : Bool :=
  "imsUuxR".toList.contains c

/-- What becomes of a flag: letters before the hyphen set it, letters behind it clear it. -/
def changed (letters : List Char) (letter : Char) (old : Bool) : Bool :=
  if (letters.takeWhile (· ≠ '-')).contains letter then true
  else !letters.contains letter && old

/-- The flags changed by some letters and at most one hyphen, none of them twice. A hyphen at the
end clears nothing and is refused. -/
def change? (flags : Flags) (letters : List Char) : Option Flags :=
  if letters.all (fun c => c = '-' || isLetter c) && letters.Nodup &&
      letters.getLast? ≠ some '-' then
    some ⟨changed letters 'i' flags.caseless, changed letters 'u' flags.unicode,
      changed letters 'x' flags.verbose⟩
  else none

/-- A text without the blank characters and comments before it. -/
def dropSpacing (inComment : Bool) : List Char → List Char
  | [] => []
  | c :: rest =>
    if inComment then dropSpacing (c ≠ '\n') rest
    else if isBlank c then dropSpacing false rest
    else if c = '#' then dropSpacing true rest
    else c :: rest

def spacing (flags : Flags) : Reader Unit :=
  fun s => some ((), if flags.verbose then dropSpacing false s else s)

end Flags

end Signatures.Log.Pattern
