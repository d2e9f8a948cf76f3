import Mathlib.Logic.ExistsUnique
import Signatures.Proofs.Splitter.Dissection
import Signatures.Proofs.Splitter.Runs

/-!
# Maximal runs

Every text is dissected in exactly one way into gaps of separators and tokens without separators.
The tokens are the maximal runs of other characters, and splitting by characters gives them in their
order.
-/

namespace Signatures

set_option autoImplicit false

/-- A dissection whose gaps consist of separators and whose tokens hold none. -/
abbrev RunDissection (p : Char → Bool) : Type :=
  Dissection (fun g => ∀ c ∈ g, p c = true) (fun t => ∀ c ∈ t, p c = false)

variable {p : Char → Bool} {s t u : List Char}

theorem exists_cuts (p : Char → Bool) (s : List Char) :
    ∃ t ts, Cuts (fun d => ∃ c, p c = true ∧ d = [c]) s (t :: ts) ∧
      ∀ u ∈ t :: ts, ∀ c ∈ u, p c = false := by
  induction s with
  | nil => exact ⟨[], [], .last [], by simp⟩
  | cons a s ih =>
    obtain ⟨t, ts, hs, hfree⟩ := ih
    by_cases ha : p a = true
    · exact ⟨[], t :: ts, .cons (t := []) ⟨a, ha, rfl⟩ hs,
        List.forall_mem_cons.mpr ⟨by simp, hfree⟩⟩
    · obtain ⟨ht, hts⟩ := List.forall_mem_cons.mp hfree
      have hat : ∀ c ∈ [a] ++ t, p c = false :=
        List.forall_mem_append.mpr ⟨by simpa using ha, ht⟩
      exact ⟨[a] ++ t, ts, hs.add_front [a], List.forall_mem_cons.mpr ⟨hat, hts⟩⟩

theorem exists_runDissection (p : Char → Bool) (s : List Char) :
    ∃ d : RunDissection p, d.text = String.ofList s := by
  obtain ⟨t, ts, hs, hfree⟩ := exists_cuts p s
  have hcut : ∀ d : List Char, (∃ c, p c = true ∧ d = [c]) →
      d ≠ [] ∧ ∀ g, (∀ c ∈ g, p c = true) → ∀ c ∈ d ++ g, p c = true := by
    rintro _ ⟨c, hc, rfl⟩
    exact ⟨by simp, fun g hg => List.forall_mem_cons.mpr ⟨hc, hg⟩⟩
  obtain ⟨d, htext, -⟩ := hs.exists_dissection (by simp) hcut hfree
  exact ⟨d, htext⟩

/-- A text that is empty or begins with a separator. -/
def AtGap (p : Char → Bool) (s : List Char) : Prop :=
  ∀ c ∈ s.head?, p c = true

theorem Dissection.Follows.atGap {d : RunDissection p} (hd : d.Follows) :
    AtGap p d.text.toList := by
  intro c hc
  rw [Dissection.text, String.toList_ofList] at hc
  apply d.isGap_front c
  rcases hd with hfront | hparts
  · obtain ⟨a, g, hg⟩ := List.exists_cons_of_ne_nil hfront
    obtain rfl : a = c := by simpa [hg] using hc
    simp [hg]
  · exact List.mem_of_mem_head? (by simpa [hparts] using hc)

theorem runs_token_append (hne : t ≠ []) (ht : ∀ c ∈ t, p c = false) (hs : AtGap p s) :
    runs p (t ++ s) = t :: runs p s := by
  cases s with
  | nil => simp [runs_eq_singleton ht hne, runs_nil]
  | cons c s =>
    have hc : p c = true := hs c rfl
    have hskip : runs p (c :: s) = runs p s := runs_separators_append (d := [c]) (by simpa) s
    rw [runs_append_cons hc, runs_eq_singleton ht hne, hskip, List.singleton_append]

/-- The runs of a dissected text are its tokens. -/
theorem map_runs_text (d : RunDissection p) :
    (runs p d.text.toList).map String.ofList = d.tokens := by
  induction d using Dissection.induction with
  | blank g hg =>
    have hnone : runs p (g ++ []) = runs p [] := runs_separators_append hg []
    simpa [runs_nil] using hnone
  | token g t d hg ht hd ih =>
    obtain ⟨hne, hfree⟩ := ht
    simp [runs_separators_append hg, runs_token_append hne hfree hd.atGap, ih]

/-- Where a text changes from characters of one kind to others, it has only one front part. -/
theorem append_inj_of_change {q : Char → Bool} {u' s' : List Char} (hu : ∀ c ∈ u, q c = true)
    (hu' : ∀ c ∈ u', q c = true) (hs : ∀ c ∈ s.head?, q c = false)
    (hs' : ∀ c ∈ s'.head?, q c = false) (h : u ++ s = u' ++ s') : u = u' ∧ s = s' := by
  have hfront {s : List Char} (hs : ∀ c ∈ s.head?, q c = false) : s.takeWhile q = [] := by
    cases s with
    | nil => rfl
    | cons c s => simp [hs c rfl]
  have htake := congrArg (List.takeWhile q) h
  rw [List.takeWhile_append_of_pos hu, List.takeWhile_append_of_pos hu', hfront hs, hfront hs',
    List.append_nil, List.append_nil] at htake
  subst htake
  exact ⟨rfl, List.append_cancel_left h⟩

theorem head?_token_append (hne : t ≠ []) (ht : ∀ c ∈ t, p c = false) (s : List Char) :
    ∀ c ∈ (t ++ s).head?, p c = false := by
  obtain ⟨a, t, rfl⟩ := List.exists_cons_of_ne_nil hne
  simpa using ht a List.mem_cons_self

/-- The gaps of a text are determined by it, as its tokens are. -/
theorem runDissection_ext {d d' : RunDissection p} (h : d.text = d'.text) : d = d' := by
  have htokens : d.tokens = d'.tokens := by rw [← map_runs_text, ← map_runs_text, h]
  induction d using Dissection.induction generalizing d' with
  | blank g hg =>
    cases d' using Dissection.induction with
    | blank g' hg' =>
      obtain rfl : g = g' := by simpa [String.ofList_inj] using h
      rfl
    | token g' t' d' => simp at htokens
  | token g t d hg ht hd ih =>
    cases d' using Dissection.induction with
    | blank g' hg' => simp at htokens
    | token g' t' d' hg' ht' hd' =>
      obtain ⟨rfl, hbehind⟩ : t = t' ∧ d.tokens = d'.tokens := by
        simpa [String.ofList_inj] using htokens
      have htext : g ++ (t ++ d.text.toList) = g' ++ (t ++ d'.text.toList) := by
        simpa using congrArg String.toList h
      obtain ⟨rfl, hrest⟩ := append_inj_of_change hg hg' (head?_token_append ht.1 ht.2 _)
        (head?_token_append ht.1 ht.2 _) htext
      obtain rfl := ih (String.toList_inj.mp (List.append_cancel_left hrest)) hbehind
      rfl

open Splitter

/-- Splitting by characters undoes every way of putting tokens without separators between gaps of
separators. Every text is made in exactly one such way, so that its tokens are its maximal runs. -/
theorem byDelimiters_runDissection (ds : List String) :
    (∀ d : RunDissection (isSeparator ds), byDelimiters d.text ds = d.tokens) ∧
      (∀ source, ∃! d : RunDissection (isSeparator ds), d.text = source) ∧
      ∀ source, (ofDelimiters .characters ds).split source = byDelimiters source ds := by
  refine ⟨fun d => ?_, fun source => ?_, fun _ => rfl⟩
  · rw [byDelimiters, split_characters_eq_runs, map_runs_text]
  · obtain ⟨d, hd⟩ := exists_runDissection (isSeparator ds) source.toList
    rw [String.ofList_toList] at hd
    exact ⟨d, hd, fun d' hd' => runDissection_ext (hd'.trans hd.symm)⟩

end Signatures
