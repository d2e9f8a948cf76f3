import Signatures.Log.Pattern.Expression

/-!
# Patterns of values

The value of a field may be described by a number or by a regular expression. A number is written in
decimal digits, with a sign, a point and an exponent where they are wanted; digits may be missing on
one side of the point. Infinities and the value that is no number have names, in any case of the
letters. Names of truth values and numbers without a plus sign are regular expressions as well.
-/

namespace Signatures.Log.Pattern

def dropSign : List Char → List Char
  | '+' :: rest => rest
  | '-' :: rest => rest
  | s => s

/-- Whether a text is a power of ten behind a decimal number, or nothing. -/
def isExponent : List Char → Bool
  | [] => true
  | c :: rest =>
    (c = 'e' || c = 'E') && !(dropSign rest).isEmpty && (dropSign rest).all Char.isDigit

def isDecimal (s : List Char) : Bool :=
  let (whole, rest) := s.span Char.isDigit
  let (decimals, exponent) := match rest with
    | '.' :: rest => rest.span Char.isDigit
    | _ => ([], rest)
  !(whole.isEmpty && decimals.isEmpty) && isExponent exponent

/-- The names of values that no digits write. -/
def numberNames : List String :=
  ["inf", "infinity", "nan"]

def isNumber (s : List Char) : Bool :=
  isDecimal (dropSign s) ||
    numberNames.contains (String.ofList ((dropSign s).map Char.toLower))

/-- Whether a text describes values. -/
def isValid (s : List Char) : Bool :=
  isNumber s || Expression.isExpression s

end Signatures.Log.Pattern
