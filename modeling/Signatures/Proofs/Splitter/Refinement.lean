import Signatures.Proofs.Splitter.Preparation

/-!
# The scan cuts at leftmost longest matches

The scan over byte offsets makes the cuts of `LeftmostLongest.cut`, one move for one cut or one
character. The cursor carries the invariant: it stands behind the token that the cut has open, and
before the rest that the cut has not read.
-/

namespace Signatures

set_option autoImplicit false

namespace LeftmostLongest

variable {ds : List (List Char)} {token rest d : List Char} {x : Char}

theorem cut_nil (ds : List (List Char)) (token : List Char) : cut ds token [] = [token] := by
  rw [cut]

theorem cut_delimiter (h : longestAt? ds (x :: rest) = some d) :
    cut ds token (x :: rest) = token :: cut ds [] ((x :: rest).drop d.length) := by
  rw [cut]
  split <;> simp_all

theorem cut_character (h : longestAt? ds (x :: rest) = none) :
    cut ds token (x :: rest) = cut ds (token ++ [x]) rest := by
  rw [cut]
  split <;> simp_all

end LeftmostLongest

namespace Scan

open LeftmostLongest

variable {source : String} {ds : List String} {token rest : List Char} {c : Cursor}

theorem length_le_utf8ByteSize (s : List Char) : s.length ≤ (String.ofList s).utf8ByteSize := by
  induction s with
  | nil => simp
  | cons x s ih =>
    have hx := x.utf8Size_pos
    rw [← List.singleton_append, String.ofList_append, String.utf8ByteSize_append]
    simp
    omega

theorem Stands.position_eq (h : Stands source token [] c) : c.position = source.utf8ByteSize := by
  obtain ⟨before, hsource, -, hposition⟩ := h
  simp [hposition, hsource]

/-- With a move for every character of the rest, the scan ends with the tokens of the cut. -/
theorem run_of_stands (moves : Nat) (h : Stands source token rest c)
    (hmoves : rest.length < moves) :
    run source (Splitter.prepared ds) moves c =
      .ok ((c.closed.reverse ++ (cut (ds.map String.toList) token rest).map String.ofList).filter
        (· ≠ "")) := by
  induction moves generalizing token rest c with
  | zero => exact absurd hmoves (Nat.not_lt_zero _)
  | succ moves ih =>
    have hlongest := longestAt?_eq_map_firstAt? ds rest
    rw [run, h.step_eq]
    cases rest with
    | nil =>
      obtain ⟨part, hpart, htoken⟩ := h.exists_token
      rw [h.position_eq] at hpart
      simp [bind, Except.bind, pure, Except.pure, hpart, htoken, cut_nil]
    | cons x rest =>
      cases hfirst : firstAt? (Splitter.prepared ds) (x :: rest) with
      | none =>
        rw [hfirst, Option.map_none] at hlongest
        rw [cut_character hlongest]
        exact ih h.character (Nat.lt_of_succ_lt_succ hmoves)
      | some d =>
        rw [hfirst, Option.map_some] at hlongest
        have hd := List.length_pos_iff.mpr (ne_nil_of_longestAt? hlongest)
        have hdrop : ((x :: rest).drop d.toList.length).length < moves := by
          simp only [List.length_drop, List.length_cons] at hmoves ⊢
          omega
        have hstands := h.delimiter (mem_of_firstAt? hfirst).2 (String.ofList token :: c.closed)
        have hnext := ih hstands hdrop
        rw [cut_delimiter hlongest]
        simpa [bind, Except.bind] using hnext

/-- Starting before the first character, the scan of a splitter ends within its limit. -/
theorem run_prepared (source : String) (ds : List String) :
    run source (Splitter.prepared ds) (source.utf8ByteSize + 1) .initial =
      .ok (LeftmostLongest.tokens source ds) := by
  have hmoves : source.toList.length < source.utf8ByteSize + 1 := by
    have h := length_le_utf8ByteSize source.toList
    rw [String.ofList_toList] at h
    omega
  rw [run_of_stands _ (stands_initial source) hmoves, LeftmostLongest.tokens]
  simp [Cursor.initial, List.filter_map, Function.comp_def]

end Scan

/-- Splitting by whole delimiters is cutting at the leftmost longest matches, for delimiters in any
order, repeated, empty or overlapping. No text stops the scan before its end. -/
theorem split_delimiters_eq_tokens (source : String) (ds : List String) :
    (Splitter.ofDelimiters .delimiters ds).split source = LeftmostLongest.tokens source ds ∧
      Scan.run source (Splitter.prepared ds) (source.utf8ByteSize + 1) .initial =
        .ok (LeftmostLongest.tokens source ds) := by
  have hrun := Scan.run_prepared source ds
  refine ⟨?_, hrun⟩
  change Scan.tokens source (Splitter.prepared ds) = _
  rw [Scan.tokens, hrun]

end Signatures
