import Signatures.Splitter.Scan
import Signatures.Text.Layout

/-!
# Splitters

A splitter is a set of delimiters, prepared once and applied to any number of texts. It takes either
every character of its delimiters as a separator, or every delimiter as a whole, the longest that
fits. Adjacent delimiters make one gap, so that no token is empty. A prepared set is in a fixed
order and without repetition; equal sets give equal splitters.

A splitter is written as its mode with its prepared set: the separators as a set of characters, the
delimiters as a list in the order in which they are tried.
-/

namespace Signatures

section Distinct

variable {α : Type}

/-- Adds an element to an ascending list, unless an equal one is there. -/
def insertDistinct (order : α → α → Ordering) (a : α) : List α → List α
  | [] => [a]
  | b :: rest =>
    match order a b with
    | .lt => a :: b :: rest
    | .eq => b :: rest
    | .gt => b :: insertDistinct order a rest

/-- The elements of a list in the order of a comparison. Of those that compare as equal one is
kept. -/
def ascendingDistinct (order : α → α → Ordering) (as : List α) : List α :=
  as.foldr (insertDistinct order) []

end Distinct

/-- How delimiters of several characters are matched. -/
inductive Mode where
  | characters
  | delimiters
deriving DecidableEq, Inhabited

def Mode.name : Mode → String
  | characters => "Characters"
  | delimiters => "Delimiters"

inductive Splitter where
  | characters (separators : List Char)
  | delimiters (delimiters : List String)
deriving DecidableEq

namespace Splitter

open Text

/-- Longer delimiters come first, by their number of bytes; those of one length ascend by their
bytes. -/
def delimiterOrder (a b : String) : Ordering :=
  (compare b.utf8ByteSize a.utf8ByteSize).then
    (compare a.toByteArray.data.toList b.toByteArray.data.toList)

/-- Prepares delimiters. An empty one is never matched as a whole and is left out. -/
def ofDelimiters : Mode → List String → Splitter
  | .characters, ds => characters (ascendingDistinct compare (ds.flatMap String.toList))
  | .delimiters, ds => delimiters (ascendingDistinct delimiterOrder (ds.filter (· ≠ "")))

def mode : Splitter → Mode
  | characters _ => .characters
  | delimiters _ => .delimiters

def split : Splitter → String → List String
  | characters separators, source =>
    ((source.toList.splitOnP (separators.contains ·)).filter (· ≠ [])).map String.ofList
  | delimiters ds, source => Scan.tokens source ds

def layout (s : Splitter) : Layout :=
  let prepared := match s with
    | characters cs => Layout.set (cs.map Layout.character)
    | delimiters ds => Layout.list (ds.map Layout.text)
  .record "Splitter" [("matcher", .applied s.mode.name prepared)]

end Splitter

/-- The pieces of a text between characters of the delimiters. -/
def byDelimiters (source : String) (ds : List String) : List String :=
  (Splitter.ofDelimiters .characters ds).split source

end Signatures
