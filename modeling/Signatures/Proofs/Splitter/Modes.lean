import Signatures.Proofs.Splitter.Refinement
import Signatures.Proofs.Splitter.Runs

/-!
# The two modes of splitting

Whole delimiters cut a text at fewer places than their characters do. What a cut takes away consists
of separators, and there is at least one, so that the runs of the tokens are the runs of the text,
whichever delimiters the cuts chose. Delimiters of one character leave no separator in a token.
-/

namespace Signatures

set_option autoImplicit false

namespace LeftmostLongest

variable {ds : List (List Char)} {p : Char → Bool}

theorem cuts_cut (ds : List (List Char)) (token rest : List Char) :
    Cuts (fun d => d ∈ ds ∧ d ≠ []) (token ++ rest) (cut ds token rest) := by
  induction token, rest using cut.induct ds with
  | case1 token => simpa [cut_nil] using Cuts.last token
  | case2 token c rest d h ih =>
    obtain ⟨hd, hne, ⟨rest', hrest⟩, -⟩ := longestAt?_eq_some_iff.mp h
    rw [← hrest, List.drop_left] at ih
    rw [cut_delimiter h, ← hrest, List.drop_left, ← List.append_assoc]
    exact .cons ⟨hd, hne⟩ ih
  | case3 token c rest h ih =>
    rw [cut_character h]
    simpa using ih

/-- The runs within the tokens are the runs of the text. -/
theorem flatMap_runs_cut (hp : ∀ d ∈ ds, ∀ c ∈ d, p c = true) (token rest : List Char) :
    (cut ds token rest).flatMap (runs p) = runs p (token ++ rest) :=
  (cuts_cut ds token rest).flatMap_runs fun d hd => ⟨hd.2, hp d hd.1⟩

/-- Where every separator is a delimiter by itself, no token holds one. -/
theorem separator_not_mem_cut (hp : ∀ c, p c = true → [c] ∈ ds) {token rest : List Char}
    (htoken : ∀ c ∈ token, p c = false) :
    ∀ t ∈ cut ds token rest, ∀ c ∈ t, p c = false := by
  induction token, rest using cut.induct ds with
  | case1 token => simpa [cut_nil] using htoken
  | case2 token c rest d h ih =>
    rw [cut_delimiter h]
    exact List.forall_mem_cons.mpr ⟨htoken, ih (by simp)⟩
  | case3 token c rest h ih =>
    have hc : p c = false := by
      rw [Bool.eq_false_iff]
      intro hc
      exact longestAt?_eq_none_iff.mp h [c] (hp c hc) (by simp) (List.prefix_append [c] rest)
    rw [cut_character h]
    apply ih
    exact List.forall_mem_append.mpr ⟨htoken, by simpa using hc⟩

end LeftmostLongest

namespace Splitter

variable {ds : List String}

theorem isSeparator_of_mem (ds : List String) :
    ∀ d ∈ ds.map String.toList, ∀ c ∈ d, isSeparator ds c = true :=
  List.forall_mem_map.mpr fun d hd _ hc => isSeparator_iff.mpr ⟨d, hd, hc⟩

/-- A separator in a delimiter of at most one character is that delimiter. -/
theorem singleton_mem_of_isSeparator (hds : ∀ d ∈ ds, d.length ≤ 1) (c : Char)
    (hc : isSeparator ds c = true) : [c] ∈ ds.map String.toList := by
  obtain ⟨d, hd, hcd⟩ := isSeparator_iff.mp hc
  have hlength : d.toList.length = 1 := by
    have hle := hds d hd
    have hpos := List.length_pos_of_mem hcd
    rw [← String.length_toList] at hle
    omega
  obtain ⟨x, hx⟩ := List.length_eq_one_iff.mp hlength
  obtain rfl : c = x := by simpa [hx] using hcd
  exact hx ▸ List.mem_map_of_mem hd

theorem split_delimiters_eq_cut (source : String) (ds : List String) :
    (ofDelimiters .delimiters ds).split source =
      ((LeftmostLongest.cut (ds.map String.toList) [] source.toList).filter (· ≠ [])).map
        String.ofList := by
  change Scan.tokens source (prepared ds) = _
  rw [Scan.tokens, Scan.run_prepared]
  rfl

end Splitter

open Splitter

/-- Splitting every token of whole delimiters again by their characters is splitting by characters
at once. When no delimiter is longer than a character, both modes give the same tokens. -/
theorem split_delimiters_refines_characters (source : String) (ds : List String) :
    ((ofDelimiters .delimiters ds).split source).flatMap (ofDelimiters .characters ds).split =
        (ofDelimiters .characters ds).split source ∧
      ((∀ d ∈ ds, d.length ≤ 1) →
        (ofDelimiters .delimiters ds).split source =
          (ofDelimiters .characters ds).split source) := by
  have hruns : (LeftmostLongest.cut (ds.map String.toList) [] source.toList).flatMap
      (runs (isSeparator ds)) = runs (isSeparator ds) source.toList :=
    LeftmostLongest.flatMap_runs_cut (isSeparator_of_mem ds) [] source.toList
  constructor
  · rw [split_delimiters_eq_cut, split_characters_eq_runs, List.flatMap_map]
    simp only [split_characters_eq_runs, String.toList_ofList]
    rw [← List.map_flatMap, flatMap_runs_filter, hruns]
  · intro hds
    have hfree : ∀ t ∈ LeftmostLongest.cut (ds.map String.toList) [] source.toList,
        ∀ c ∈ t, isSeparator ds c = false :=
      LeftmostLongest.separator_not_mem_cut (singleton_mem_of_isSeparator hds) (by simp)
    rw [split_delimiters_eq_cut, split_characters_eq_runs, ← hruns, flatMap_runs_eq_filter hfree]

theorem split_delimiters_refines_characters_single :
    (∀ d ∈ ["é", "", "-", "é"], d.length ≤ 1) ∧
      (ofDelimiters .delimiters ["é", "", "-", "é"]).split "-aé-bé" =
        (ofDelimiters .characters ["é", "", "-", "é"]).split "-aé-bé" :=
  have hds : ∀ d ∈ ["é", "", "-", "é"], d.length ≤ 1 := by decide
  ⟨hds, (split_delimiters_refines_characters "-aé-bé" ["é", "", "-", "é"]).2 hds⟩

end Signatures
