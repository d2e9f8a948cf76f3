import Signatures.Proofs.Splitter.Dissection
import Signatures.Proofs.Splitter.Modes

/-!
# What whole delimiters leave

Cutting at whole delimiters takes away nothing but delimiters, and it leaves none. While a token is
open, no delimiter begins at any of its characters, however far it would reach into the rest of the
text; so none stands in the token when it is closed.
-/

namespace Signatures

set_option autoImplicit false

namespace LeftmostLongest

variable {ds : List (List Char)} {token rest d g : List Char} {c : Char}

/-- One delimiter after another, none of them empty. -/
def IsJoined (ds : List (List Char)) (g : List Char) : Prop :=
  ∃ es : List (List Char), (∀ e ∈ es, e ∈ ds ∧ e ≠ []) ∧ g = es.flatten

theorem isJoined_nil (ds : List (List Char)) : IsJoined ds [] :=
  ⟨[], by simp, rfl⟩

theorem IsJoined.cons (hg : IsJoined ds g) (hd : d ∈ ds) (hne : d ≠ []) : IsJoined ds (d ++ g) := by
  obtain ⟨es, hes, rfl⟩ := hg
  exact ⟨d :: es, List.forall_mem_cons.mpr ⟨⟨hd, hne⟩, hes⟩, rfl⟩

/-- A text in which no delimiter stands at any place. -/
def IsClean (ds : List (List Char)) (t : List Char) : Prop :=
  ∀ d ∈ ds, d ≠ [] → ¬ d <:+: t

/-- No delimiter begins at a character of the open token. -/
def Unbroken (ds : List (List Char)) (token rest : List Char) : Prop :=
  ∀ v, v <:+ token → v ≠ [] → longestAt? ds (v ++ rest) = none

theorem unbroken_nil (ds : List (List Char)) (rest : List Char) : Unbroken ds [] rest :=
  fun _ hv hne => absurd (List.suffix_nil.mp hv) hne

theorem Unbroken.character (h : Unbroken ds token (c :: rest))
    (hc : longestAt? ds (c :: rest) = none) : Unbroken ds (token ++ [c]) rest := by
  intro v hv hne
  rcases List.suffix_concat_iff.mp hv with rfl | ⟨w, rfl, hw⟩
  · exact absurd rfl hne
  · rw [List.append_assoc, List.singleton_append]
    by_cases hempty : w = []
    · rwa [hempty]
    · exact h w hw hempty

theorem Unbroken.isClean (h : Unbroken ds token rest) : IsClean ds token := by
  rintro d hd hne ⟨u, w, rfl⟩
  have hsuffix : d ++ w <:+ u ++ d ++ w := ⟨u, by simp⟩
  have hnone := h (d ++ w) hsuffix (by simp [hne])
  refine longestAt?_eq_none_iff.mp hnone d hd hne ⟨w ++ rest, by simp⟩

/-- No delimiter stands in a token. -/
theorem isClean_of_mem_cut (h : Unbroken ds token rest) :
    ∀ t ∈ cut ds token rest, IsClean ds t := by
  induction token, rest using cut.induct ds with
  | case1 token => simpa [cut_nil] using h.isClean
  | case2 token c rest d hd ih =>
    rw [cut_delimiter hd]
    exact List.forall_mem_cons.mpr ⟨h.isClean, ih (unbroken_nil ds _)⟩
  | case3 token c rest hc ih =>
    rw [cut_character hc]
    exact ih (h.character hc)

/-- A text in which no delimiter stands is not cut. -/
theorem cut_eq_singleton (h : IsClean ds rest) (token : List Char) :
    cut ds token rest = [token ++ rest] := by
  induction rest generalizing token with
  | nil => simp [cut_nil]
  | cons c rest ih =>
    have hnone : longestAt? ds (c :: rest) = none :=
      longestAt?_eq_none_iff.mpr fun d hd hne hprefix => h d hd hne hprefix.isInfix
    have hrest : IsClean ds rest := fun d hd hne hd' =>
      h d hd hne (hd'.trans (List.suffix_cons c rest).isInfix)
    rw [cut_character hnone, ih hrest]
    simp

end LeftmostLongest

open LeftmostLongest Splitter

/-- What is taken away between the tokens of whole delimiters consists of delimiters, at least one
between two tokens, and no delimiter stands in a token. Splitting a token again therefore gives it
back. -/
theorem split_delimiters_dissection (source : String) (ds : List String) :
    (∃ d : Dissection (IsJoined (ds.map String.toList)) (IsClean (ds.map String.toList)),
        d.text = source ∧ d.tokens = (ofDelimiters .delimiters ds).split source) ∧
      ∀ t ∈ (ofDelimiters .delimiters ds).split source,
        (ofDelimiters .delimiters ds).split t = [t] := by
  have hclean : ∀ t ∈ cut (ds.map String.toList) [] source.toList,
      IsClean (ds.map String.toList) t := isClean_of_mem_cut (unbroken_nil _ _)
  constructor
  · have hcuts := cuts_cut (ds.map String.toList) [] source.toList
    obtain ⟨d, htext, htokens⟩ := hcuts.exists_dissection (isJoined_nil _)
      (fun d hd => ⟨hd.2, fun g hg => hg.cons hd.1 hd.2⟩) hclean
    refine ⟨d, ?_, ?_⟩
    · simpa using htext
    · rw [htokens, split_delimiters_eq_cut]
  · intro t ht
    rw [split_delimiters_eq_cut] at ht
    obtain ⟨t, hmem, rfl⟩ := List.mem_map.mp ht
    obtain ⟨hcut, hne⟩ := List.mem_filter.mp hmem
    have hempty : t ≠ [] := by simpa using hne
    rw [split_delimiters_eq_cut, String.toList_ofList, cut_eq_singleton (hclean t hcut)]
    simp [hempty]

theorem split_delimiters_dissection_straddling :
    "ab" ∈ (ofDelimiters .delimiters ["ba", "", "bab"]).split "abbaba" ∧
      (ofDelimiters .delimiters ["ba", "", "bab"]).split "ab" = ["ab"] :=
  have h : "ab" ∈ (ofDelimiters .delimiters ["ba", "", "bab"]).split "abbaba" := by
    decide +kernel
  ⟨h, (split_delimiters_dissection "abbaba" ["ba", "", "bab"]).2 "ab" h⟩

end Signatures
