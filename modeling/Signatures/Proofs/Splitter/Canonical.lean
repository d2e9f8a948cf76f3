import Mathlib.Data.List.Destutter
import Mathlib.Data.List.Sort
import Signatures.Proofs.Splitter.Runs

/-!
# Equal splitters

A list in strict order is determined by its elements. A splitter keeps its set in strict order, so
that it remembers of its delimiters only which there are: their order, their repetition and the
empty ones are lost. By characters, two splitters that differ also differ on a text of one
character.
-/

namespace Signatures

set_option autoImplicit false

section Ascending

variable {α : Type} {order : α → α → Ordering} {a b : α} {as bs : List α}

theorem isLE_total (order : α → α → Ordering) [Std.OrientedCmp order] (a b : α) :
    ((order a b).isLE || (order b a).isLE) = true := by
  have hswap : order b a = (order a b).swap := Std.OrientedCmp.eq_swap
  rw [hswap]
  cases order a b <;> rfl

theorem lt_of_isLE_of_ne [Std.LawfulEqCmp order] (h : (order a b).isLE = true) (hne : a ≠ b) :
    order a b = .lt := by
  rcases Ordering.isLE_iff_eq_lt_or_eq_eq.mp h with hlt | heq
  · exact hlt
  · exact absurd (Std.LawfulEqCmp.eq_of_compare heq) hne

variable [Std.TransCmp order]

theorem order_irrefl (a : α) : ¬ order a a = .lt := by
  have hself : order a a = .eq := Std.ReflCmp.compare_self
  rw [hself]
  decide

theorem ascending_ext (ha : as.Pairwise (order · · = .lt)) (hb : bs.Pairwise (order · · = .lt))
    (h : ∀ a, a ∈ as ↔ a ∈ bs) : as = bs := by
  have : Std.Irrefl (order · · = .lt) := ⟨order_irrefl⟩
  have : Std.Antisymm (order · · = .lt) :=
    ⟨fun _ _ hab hba => absurd hba (Std.OrientedCmp.not_lt_of_lt hab)⟩
  exact ha.eq_of_mem_iff hb h

theorem nodup_of_ascending (ha : as.Pairwise (order · · = .lt)) : as.Nodup := by
  apply ha.imp
  rintro a _ h rfl
  exact order_irrefl a h

variable [Std.LawfulEqCmp order]

theorem ascendingDistinct_eq_iff :
    ascendingDistinct order as = ascendingDistinct order bs ↔ ∀ a, a ∈ as ↔ a ∈ bs := by
  constructor
  · intro h a
    have hmem : a ∈ ascendingDistinct order as ↔ a ∈ as := mem_ascendingDistinct
    rw [← hmem, h, mem_ascendingDistinct]
  · intro h
    apply ascending_ext (pairwise_ascendingDistinct as) (pairwise_ascendingDistinct bs)
    intro a
    rw [mem_ascendingDistinct, mem_ascendingDistinct, h]

variable [DecidableEq α]

theorem mem_destutter'_ne : b ∈ as.destutter' (· ≠ ·) a ↔ b = a ∨ b ∈ as := by
  induction as generalizing a with
  | nil => simp
  | cons x as ih =>
    by_cases hx : a = x
    · rw [List.destutter'_cons_neg as (not_not.mpr hx), ih, List.mem_cons, hx, ← or_assoc, or_self]
    · rw [List.destutter'_cons_pos as hx, List.mem_cons, ih, List.mem_cons]

/-- In a sorted list equal elements are adjacent, so dropping repetitions there drops all. -/
theorem pairwise_destutter' (h : (a :: as).Pairwise fun a b => (order a b).isLE = true) :
    (as.destutter' (· ≠ ·) a).Pairwise (order · · = .lt) := by
  induction as generalizing a with
  | nil => simp
  | cons x as ih =>
    obtain ⟨ha, has⟩ := List.pairwise_cons.mp h
    by_cases hx : a = x
    · rw [List.destutter'_cons_neg as (not_not.mpr hx), hx]
      exact ih has
    · rw [List.destutter'_cons_pos as hx]
      refine List.pairwise_cons.mpr ⟨?_, ih has⟩
      have hax := lt_of_isLE_of_ne (ha x List.mem_cons_self) hx
      intro y hy
      rcases mem_destutter'_ne.mp hy with rfl | hy
      · exact hax
      · exact Std.TransCmp.lt_of_lt_of_isLE hax ((List.pairwise_cons.mp has).1 y hy)

/-- Sorting and then dropping what repeats the element before it gives the ascending list. -/
theorem ascendingDistinct_eq_destutter (as : List α) :
    ascendingDistinct order as =
      (as.mergeSort fun a b => (order a b).isLE).destutter (· ≠ ·) := by
  have hsorted : (as.mergeSort fun a b => (order a b).isLE).Pairwise
      fun a b => (order a b).isLE = true :=
    List.pairwise_mergeSort (fun _ _ _ => Std.TransCmp.isLE_trans) (isLE_total order) as
  have hmem : ∀ a, a ∈ as.mergeSort (fun a b => (order a b).isLE) ↔ a ∈ as :=
    fun _ => List.mem_mergeSort
  generalize as.mergeSort (fun a b => (order a b).isLE) = sorted at hsorted hmem
  apply ascending_ext (pairwise_ascendingDistinct as)
  · cases sorted with
    | nil => simp
    | cons x sorted => exact pairwise_destutter' hsorted
  · intro a
    rw [mem_ascendingDistinct, ← hmem]
    cases sorted with
    | nil => simp
    | cons x sorted => rw [List.destutter_cons', mem_destutter'_ne, List.mem_cons]

end Ascending

theorem compare_bytes_eq_lt_iff {as bs : List UInt8} : compare as bs = .lt ↔ as < bs := by
  induction as generalizing bs with
  | nil => cases bs <;> simp
  | cons a as ih =>
    cases bs with
    | nil => simp
    | cons b bs =>
      rw [List.compare_cons_cons, Ordering.then_eq_lt, List.cons_lt_cons_iff, ih,
        Std.compare_eq_lt, Std.compare_eq_iff_eq]

namespace Splitter

variable {ds es : List String}

/-- One delimiter is tried before another: it has more bytes, or as many and lesser ones. -/
def Precedes (d e : String) : Prop :=
  e.utf8ByteSize < d.utf8ByteSize ∨
    e.utf8ByteSize = d.utf8ByteSize ∧ d.toByteArray.data.toList < e.toByteArray.data.toList

theorem delimiterOrder_eq_lt_iff {d e : String} : delimiterOrder d e = .lt ↔ Precedes d e := by
  rw [delimiterOrder, Ordering.then_eq_lt, Nat.compare_eq_lt, Nat.compare_eq_eq,
    compare_bytes_eq_lt_iff]
  rfl

theorem pairwise_prepared (ds : List String) : (prepared ds).Pairwise Precedes :=
  (pairwise_ascendingDistinct _).imp delimiterOrder_eq_lt_iff.mp

example : prepared ["b", "→", "", "a", "b"] = ["→", "a", "b"] := by
  decide +kernel

/-- Two lists hold the same delimiters, apart from empty ones. -/
def SameDelimiters (ds es : List String) : Prop :=
  ∀ d, d ≠ "" → (d ∈ ds ↔ d ∈ es)

/-- The same characters occur in the delimiters of two lists. -/
def SameCharacters (ds es : List String) : Prop :=
  ∀ c, (∃ d ∈ ds, c ∈ d.toList) ↔ ∃ d ∈ es, c ∈ d.toList

theorem SameDelimiters.sameCharacters (h : SameDelimiters ds es) : SameCharacters ds es := by
  intro c
  have hne {d : String} (hc : c ∈ d.toList) : d ≠ "" := by
    rintro rfl
    simp at hc
  constructor
  · rintro ⟨d, hd, hc⟩
    exact ⟨d, (h d (hne hc)).mp hd, hc⟩
  · rintro ⟨d, hd, hc⟩
    exact ⟨d, (h d (hne hc)).mpr hd, hc⟩

theorem ofDelimiters_delimiters_eq_iff :
    ofDelimiters .delimiters ds = ofDelimiters .delimiters es ↔ SameDelimiters ds es := by
  change delimiters (prepared ds) = delimiters (prepared es) ↔ _
  rw [delimiters.injEq, prepared, prepared, ascendingDistinct_eq_iff]
  simp only [List.mem_filter, decide_eq_true_eq, and_congr_left_iff]
  rfl

theorem ofDelimiters_characters_eq_iff :
    ofDelimiters .characters ds = ofDelimiters .characters es ↔ SameCharacters ds es := by
  rw [ofDelimiters, ofDelimiters, characters.injEq, ascendingDistinct_eq_iff]
  simp only [List.mem_flatMap]
  rfl

theorem sameCharacters_iff : SameCharacters ds es ↔ isSeparator ds = isSeparator es := by
  rw [funext_iff, SameCharacters]
  apply forall_congr'
  intro c
  rw [Bool.eq_iff_iff, isSeparator_iff, isSeparator_iff]

/-- A character that only one of two splitters takes for a separator is a token of the other. -/
theorem split_characters_eq_iff :
    (∀ source, (ofDelimiters .characters ds).split source =
        (ofDelimiters .characters es).split source) ↔ SameCharacters ds es := by
  simp only [split_characters_eq_runs, sameCharacters_iff]
  constructor
  · intro h
    funext c
    have hmap := h (String.ofList [c])
    rw [String.toList_ofList] at hmap
    have hruns : runs (isSeparator ds) [c] = runs (isSeparator es) [c] :=
      List.map_injective_iff.mpr (fun _ _ => String.ofList_injective) hmap
    rw [Bool.eq_iff_iff, ← runs_singleton_eq_nil_iff, hruns, runs_singleton_eq_nil_iff]
  · intro h source
    rw [h]

theorem SameDelimiters.ofDelimiters_eq (h : SameDelimiters ds es) (mode : Mode) :
    ofDelimiters mode ds = ofDelimiters mode es := by
  cases mode with
  | characters => exact ofDelimiters_characters_eq_iff.mpr h.sameCharacters
  | delimiters => exact ofDelimiters_delimiters_eq_iff.mpr h

end Splitter

open Splitter

/-- Splitters by whole delimiters are equal when they have the same delimiters that are not empty,
and those by characters when they have the same characters or split every text alike. The order of
the delimiters, their repetition and the empty ones among them have no part in a splitter. -/
theorem ofDelimiters_canonical (ds es : List String) :
    (ofDelimiters .delimiters ds = ofDelimiters .delimiters es ↔ SameDelimiters ds es) ∧
      (ofDelimiters .delimiters ds = .delimiters (prepared ds) ∧
        prepared ds = ((ds.filter (· ≠ "")).mergeSort
          fun d e => (delimiterOrder d e).isLE).destutter (· ≠ ·) ∧
        (prepared ds).Pairwise Precedes ∧ (prepared ds).Nodup ∧ "" ∉ prepared ds) ∧
      (ofDelimiters .characters ds = ofDelimiters .characters es ↔ SameCharacters ds es) ∧
      (SameCharacters ds es ↔ ∀ source,
        (ofDelimiters .characters ds).split source =
          (ofDelimiters .characters es).split source) ∧
      ofDelimiters .characters ds ≠ ofDelimiters .delimiters es ∧
      (SameDelimiters ds es → ∀ mode source,
        (ofDelimiters mode ds).split source = (ofDelimiters mode es).split source) := by
  refine ⟨ofDelimiters_delimiters_eq_iff, ⟨rfl, ?_, pairwise_prepared ds, ?_, ?_⟩,
    ofDelimiters_characters_eq_iff, split_characters_eq_iff.symm, ?_, ?_⟩
  · exact ascendingDistinct_eq_destutter _
  · exact nodup_of_ascending (pairwise_ascendingDistinct _)
  · intro h
    exact (mem_prepared.mp h).2 rfl
  · exact Splitter.noConfusion
  · intro h mode source
    rw [h.ofDelimiters_eq mode]

theorem ofDelimiters_canonical_rearranged :
    SameDelimiters ["→", "", "a", "→a", "→"] ["a", "→a", "→"] ∧
      (ofDelimiters .delimiters ["→", "", "a", "→a", "→"]).split "b→ab→" =
        (ofDelimiters .delimiters ["a", "→a", "→"]).split "b→ab→" := by
  have hsame : SameDelimiters ["→", "", "a", "→a", "→"] ["a", "→a", "→"] := by
    intro d hd
    simp only [List.mem_cons, List.not_mem_nil, or_false]
    tauto
  obtain ⟨-, -, -, -, -, hsplit⟩ :=
    ofDelimiters_canonical ["→", "", "a", "→a", "→"] ["a", "→a", "→"]
  exact ⟨hsame, hsplit hsame .delimiters "b→ab→"⟩

end Signatures
