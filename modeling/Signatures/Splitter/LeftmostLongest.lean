/-!
# Leftmost longest matches

A text is cut at delimiters from left to right. At every place reached, the longest delimiter that
begins there ends a token; where none begins, the next character belongs to the token. Lengths are
numbers of characters, and neither the order nor the repetition of the delimiters matters.
-/

namespace Signatures.LeftmostLongest

def longest? : List (List Char) → Option (List Char)
  | [] => none
  | d :: ds =>
    match longest? ds with
    | none => some d
    | some e => if d.length < e.length then some e else some d

/-- The longest delimiter with which a text begins, empty ones apart. -/
def longestAt? (ds : List (List Char)) (rest : List Char) : Option (List Char) :=
  longest? (ds.filter fun d => d ≠ [] && d.isPrefixOf rest)

theorem mem_of_longest? {ds : List (List Char)} {d : List Char} (h : longest? ds = some d) :
    d ∈ ds := by
  induction ds generalizing d with
  | nil => simp [longest?] at h
  | cons e ds ih =>
    rw [longest?] at h
    split at h
    · simp_all
    · next f hf =>
      split at h
      · exact List.mem_cons_of_mem e (ih (hf.trans h))
      · simp_all

theorem ne_nil_of_longestAt? {ds : List (List Char)} {rest d : List Char}
    (h : longestAt? ds rest = some d) : d ≠ [] := by
  have hd := (List.mem_filter.1 (mem_of_longest? h)).2
  simp at hd
  exact hd.1

/-- The tokens of a text, where `token` is what has been read of the first. -/
def cut (ds : List (List Char)) (token : List Char) : List Char → List (List Char)
  | [] => [token]
  | c :: rest =>
    match _ : longestAt? ds (c :: rest) with
    | some d => token :: cut ds [] ((c :: rest).drop d.length)
    | none => cut ds (token ++ [c]) rest
termination_by rest => rest.length
decreasing_by
  · have := List.length_pos_iff.2 (ne_nil_of_longestAt? ‹_›)
    simp
    omega
  · simp

/-- The non-empty tokens of a text between delimiters. -/
def tokens (source : String) (ds : List String) : List String :=
  ((cut (ds.map String.toList) [] source.toList).filter (· ≠ [])).map String.ofList

end Signatures.LeftmostLongest
