import Signatures.Text.Combining
import Signatures.Text.Printable

/-!
# Quoted text

A text is written between double quotes and a single character between single quotes. Inside, the
enclosing quote and the backslash follow a backslash, four controls have a letter of their own, and
every other character that would not be seen by itself is written as its code point in lower case
hexadecimal digits. All other characters, the other quote among them, stand as they are.
-/

namespace Signatures.Text.Quoted

/-- The letter that stands for a control after a backslash. -/
def controlLetter? : Char → Option Char
  | '\x00' => some '0'
  | '\t' => some 't'
  | '\n' => some 'n'
  | '\r' => some 'r'
  | _ => none

/-- A code point in hexadecimal digits, between braces after `\u`. -/
def codePoint (c : Char) : List Char :=
  ['\\', 'u', '\x7b'] ++ Nat.toDigits 16 c.toNat ++ ['\x7d']

/-- One character as it is written between two quotes `quote`. -/
def escape (quote c : Char) : List Char :=
  match controlLetter? c with
  | some letter => ['\\', letter]
  | none =>
    if c = '\\' ∨ c = quote then ['\\', c]
    else if isCombining c || !isPrintable c then codePoint c
    else [c]

def text (s : List Char) : List Char :=
  '"' :: s.flatMap (escape '"') ++ ['"']

def character (c : Char) : List Char :=
  '\'' :: escape '\'' c ++ ['\'']

end Signatures.Text.Quoted
