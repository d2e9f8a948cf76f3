import Signatures.Proofs.Splitter.Dissection
import Signatures.Proofs.Splitter.Preparation

/-!
# Runs of characters

The non-empty pieces of a text between separators are its runs of other characters. Every law of
splitting by characters follows from one equation: the runs of two texts with a separator between
them are the runs of the one and then those of the other.
-/

namespace Signatures

set_option autoImplicit false

variable {p q : Char → Bool} {c : Char} {s t d : List Char} {ts : List (List Char)}

/-- The runs of characters that are no separators, in the order of the text. -/
def runs (p : Char → Bool) (s : List Char) : List (List Char) :=
  (s.splitOnP p).filter (· ≠ [])

theorem runs_nil (p : Char → Bool) : runs p [] = [] := by
  simp [runs]

/-- A separator ends the runs before it and belongs to none behind it. -/
theorem runs_append_cons (hc : p c = true) (s t : List Char) :
    runs p (s ++ c :: t) = runs p s ++ runs p t := by
  rw [runs, List.splitOnP_append_cons s t hc, List.filter_append]
  rfl

/-- Separators at the front of a text have no runs of their own. -/
theorem runs_separators_append (hd : ∀ c ∈ d, p c = true) (t : List Char) :
    runs p (d ++ t) = runs p t := by
  induction d with
  | nil => rfl
  | cons c d ih =>
    obtain ⟨hc, hd⟩ := List.forall_mem_cons.mp hd
    have hfirst := runs_append_cons hc [] (d ++ t)
    rw [List.nil_append, runs_nil, List.nil_append] at hfirst
    rw [List.cons_append, hfirst, ih hd]

theorem runs_append_separators (hd : ∀ c ∈ d, p c = true) (hne : d ≠ []) (s t : List Char) :
    runs p (s ++ d ++ t) = runs p s ++ runs p t := by
  obtain ⟨c, d, rfl⟩ := List.exists_cons_of_ne_nil hne
  obtain ⟨hc, hd⟩ := List.forall_mem_cons.mp hd
  rw [List.append_assoc, List.cons_append, runs_append_cons hc, runs_separators_append hd]

theorem runs_eq_singleton (hs : ∀ c ∈ s, p c = false) (hne : s ≠ []) : runs p s = [s] := by
  rw [runs, List.splitOnP_eq_singleton hs]
  simp [hne]

theorem runs_singleton_eq_nil_iff : runs p [c] = [] ↔ p c = true := by
  by_cases hc : p c = true
  · simpa [hc, runs_nil] using runs_append_cons hc [] []
  · have hrun : runs p [c] = [[c]] := runs_eq_singleton (by simpa using hc) (by simp)
    simp [hrun, hc]

theorem runs_congr (h : ∀ c ∈ s, p c = q c) : runs p s = runs q s := by
  have hsplit : s.splitOnP p = s.splitOnP q := by
    induction s with
    | nil => simp
    | cons c s ih =>
      obtain ⟨hc, hs⟩ := List.forall_mem_cons.mp h
      rw [List.splitOnP_cons_eq_if_modifyHead, List.splitOnP_cons_eq_if_modifyHead, hc, ih hs]
  rw [runs, runs, hsplit]

/-- Cuts made of separators have no runs, and they separate the runs of the pieces. -/
theorem Cuts.flatMap_runs {IsCut : List Char → Prop} (h : Cuts IsCut s ts)
    (hcut : ∀ d, IsCut d → d ≠ [] ∧ ∀ c ∈ d, p c = true) : ts.flatMap (runs p) = runs p s := by
  induction h with
  | last t => simp
  | cons hd _ ih =>
    obtain ⟨hne, hseparators⟩ := hcut _ hd
    rw [List.flatMap_cons, ih, runs_append_separators hseparators hne]

/-- Empty texts have no runs, so it does not matter whether they are there. -/
theorem flatMap_runs_filter (p : Char → Bool) (ts : List (List Char)) :
    (ts.filter (· ≠ [])).flatMap (runs p) = ts.flatMap (runs p) := by
  induction ts with
  | nil => rfl
  | cons t ts ih =>
    by_cases ht : t = []
    · simp [ht, runs_nil, ← ih]
    · simp [ht, ← ih]

theorem flatMap_runs_eq_filter {ts : List (List Char)} (h : ∀ t ∈ ts, ∀ c ∈ t, p c = false) :
    ts.flatMap (runs p) = ts.filter (· ≠ []) := by
  induction ts with
  | nil => rfl
  | cons t ts ih =>
    obtain ⟨ht, hts⟩ := List.forall_mem_cons.mp h
    by_cases hne : t = []
    · simp [hne, runs_nil, ih hts]
    · simp [hne, runs_eq_singleton ht hne, ih hts]

namespace Splitter

/-- A character is a separator when it occurs in one of the delimiters. -/
def isSeparator (ds : List String) (c : Char) : Bool :=
  ds.any fun d => d.toList.contains c

variable {ds : List String}

theorem isSeparator_iff : isSeparator ds c = true ↔ ∃ d ∈ ds, c ∈ d.toList := by
  simp [isSeparator]

/-- Splitting by characters gives the runs between the characters of the delimiters. -/
theorem split_characters_eq_runs (ds : List String) (source : String) :
    (ofDelimiters .characters ds).split source =
      (runs (isSeparator ds) source.toList).map String.ofList := by
  have hseparators : (ascendingDistinct compare (ds.flatMap String.toList)).contains =
      isSeparator ds := by
    funext c
    rw [Bool.eq_iff_iff, List.contains_iff_mem, mem_ascendingDistinct, List.mem_flatMap,
      isSeparator_iff]
  rw [ofDelimiters, split, hseparators]
  rfl

end Splitter

end Signatures
