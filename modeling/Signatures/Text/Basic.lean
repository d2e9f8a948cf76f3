/-!
# Characters and parts of a text

A class of characters is a table of disjoint ranges of code points in ascending order. The blank
characters are those with the property White_Space; the information separators U+001C to U+001F, the
zero width space and the byte order mark are not among them.

A line of a text ends at a line feed, and one carriage return before the line feed belongs to the
line end. What follows the last line feed is a line too unless it is empty; a carriage return at its
end is kept.

Other parts stand at offsets that count the bytes of the UTF-8 encoding. An offset inside a
character is refused.
-/

namespace Signatures.Text

structure CodeRange where
  first : Nat
  last : Nat

/-- Whether a range of the ascending table holds the code point `n`. The search ends at the first
range that lies beyond `n`. -/
def CodeRange.covers : List CodeRange → Nat → Bool
  | [], _ => false
  | r :: rest, n => r.first ≤ n && (n ≤ r.last || covers rest n)

def blankRanges : List CodeRange :=
  [⟨0x9, 0xd⟩, ⟨0x20, 0x20⟩, ⟨0x85, 0x85⟩, ⟨0xa0, 0xa0⟩, ⟨0x1680, 0x1680⟩, ⟨0x2000, 0x200a⟩,
   ⟨0x2028, 0x2029⟩, ⟨0x202f, 0x202f⟩, ⟨0x205f, 0x205f⟩, ⟨0x3000, 0x3000⟩]

def isBlank (c : Char) : Bool :=
  CodeRange.covers blankRanges c.toNat

/-- A text without the blank characters at its two ends. -/
def trim (s : List Char) : List Char :=
  ((s.dropWhile isBlank).reverse.dropWhile isBlank).reverse

/-- A line without the carriage return that belongs to its end. -/
def dropReturn (line : List Char) : List Char :=
  if line.getLast? = some '\r' then line.dropLast else line

def lines (s : List Char) : List (List Char) :=
  let pieces := s.splitOn '\n'
  pieces.dropLast.map dropReturn ++ pieces.getLast?.toList.filter (· ≠ [])

def dropBytes? : Nat → List Char → Option (List Char)
  | 0, s => some s
  | _ + 1, [] => none
  | n + 1, c :: rest =>
    if c.utf8Size ≤ n + 1 then dropBytes? (n + 1 - c.utf8Size) rest else none

def takeBytes? : Nat → List Char → Option (List Char)
  | 0, _ => some []
  | _ + 1, [] => none
  | n + 1, c :: rest =>
    if c.utf8Size ≤ n + 1 then (takeBytes? (n + 1 - c.utf8Size) rest).map (c :: ·) else none

def sliceBytes? (s : List Char) (first last : Nat) : Option (List Char) :=
  (dropBytes? first s).bind (takeBytes? (last - first))

end Signatures.Text
