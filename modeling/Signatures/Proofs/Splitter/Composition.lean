import Mathlib.Data.List.Basic
import Signatures.Proofs.Splitter.MaximalRuns

/-!
# Splitting in several stages

Where a text is cut at separators of one kind, those of another kind stand within the pieces or not
at all. So the runs of the pieces are the runs of the text, and splitting by two sets of delimiters,
one after the other and in either order, is splitting by all of them at once.
-/

namespace Signatures

set_option autoImplicit false

/-- The runs between separators of two kinds are found by separating at the one kind first. -/
theorem runs_or (p q : Char → Bool) (s : List Char) :
    runs (fun c => p c || q c) s = (runs p s).flatMap (runs q) := by
  obtain ⟨t, ts, hcuts, hfree⟩ := exists_cuts p s
  have hboth : (t :: ts).flatMap (runs fun c => p c || q c) = runs (fun c => p c || q c) s := by
    apply hcuts.flatMap_runs
    rintro _ ⟨c, hc, rfl⟩
    simp [hc]
  have hfirst : (t :: ts).flatMap (runs p) = runs p s := by
    apply hcuts.flatMap_runs
    rintro _ ⟨c, hc, rfl⟩
    simp [hc]
  rw [← hboth, ← hfirst, flatMap_runs_eq_filter hfree, flatMap_runs_filter]
  apply List.flatMap_congr
  intro u hu
  apply runs_congr
  intro c hc
  rw [hfree u hu c hc, Bool.false_or]

namespace Splitter

theorem isSeparator_append (ds es : List String) :
    isSeparator (ds ++ es) = fun c => isSeparator ds c || isSeparator es c :=
  funext fun _ => List.any_append

end Splitter

open Splitter

theorem byDelimiters_eq_runs (source : String) (ds : List String) :
    byDelimiters source ds = (runs (isSeparator ds) source.toList).map String.ofList :=
  split_characters_eq_runs ds source

theorem flatMap_byDelimiters (source : String) (ds es : List String) :
    (byDelimiters source ds).flatMap (byDelimiters · es) =
      (runs (fun c => isSeparator ds c || isSeparator es c) source.toList).map String.ofList := by
  simp only [byDelimiters_eq_runs, List.flatMap_map, String.toList_ofList]
  rw [← List.map_flatMap, runs_or]

/-- Splitting by two sets of delimiters at once is splitting by either and then every token by the
other, so the order does not matter. With more delimiters the tokens are only cut further. -/
theorem byDelimiters_append (source : String) (ds es : List String) :
    byDelimiters source (ds ++ es) = (byDelimiters source ds).flatMap (byDelimiters · es) ∧
      byDelimiters source (ds ++ es) = (byDelimiters source es).flatMap (byDelimiters · ds) ∧
      (byDelimiters source ds).flatMap (byDelimiters · es) =
        (byDelimiters source es).flatMap (byDelimiters · ds) ∧
      byDelimiters source (ds ++ es) =
        (byDelimiters source ds).flatMap (byDelimiters · (ds ++ es)) := by
  have happend : byDelimiters source (ds ++ es) =
      (byDelimiters source ds).flatMap (byDelimiters · es) := by
    rw [flatMap_byDelimiters, byDelimiters_eq_runs, isSeparator_append]
  have hswap : (byDelimiters source ds).flatMap (byDelimiters · es) =
      (byDelimiters source es).flatMap (byDelimiters · ds) := by
    simp only [flatMap_byDelimiters, Bool.or_comm]
  refine ⟨happend, happend.trans hswap, hswap, ?_⟩
  rw [flatMap_byDelimiters, byDelimiters_eq_runs, isSeparator_append]
  simp only [Bool.or_self_left]

end Signatures
