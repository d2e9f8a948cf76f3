import Signatures.Proofs.Splitter.Offsets
import Signatures.Splitter.Basic
import Signatures.Splitter.LeftmostLongest

/-!
# Prepared delimiters

Putting delimiters into order keeps all of them and adds none. Of those with which a text begins,
the first in the order is the longest: two beginnings of one text are beginnings of one another, so
that more bytes also mean more characters.
-/

namespace Signatures

set_option autoImplicit false

section Distinct

variable {α : Type} {order : α → α → Ordering} {a b : α} {as : List α}

theorem mem_insertDistinct [Std.LawfulEqCmp order] :
    b ∈ insertDistinct order a as ↔ b = a ∨ b ∈ as := by
  induction as with
  | nil => simp [insertDistinct]
  | cons x as ih =>
    rw [insertDistinct]
    split
    · simp
    · rename_i h
      obtain rfl := Std.LawfulEqCmp.eq_of_compare h
      simp
    · simp only [List.mem_cons, ih]
      exact or_left_comm

theorem mem_ascendingDistinct [Std.LawfulEqCmp order] :
    b ∈ ascendingDistinct order as ↔ b ∈ as := by
  induction as with
  | nil => simp [ascendingDistinct]
  | cons a as ih =>
    rw [ascendingDistinct, List.foldr_cons, mem_insertDistinct, List.mem_cons]
    exact or_congr_right ih

theorem pairwise_insertDistinct [Std.TransCmp order] [Std.LawfulEqCmp order]
    (h : as.Pairwise (order · · = .lt)) :
    (insertDistinct order a as).Pairwise (order · · = .lt) := by
  induction as with
  | nil => simp [insertDistinct]
  | cons x as ih =>
    obtain ⟨hx, has⟩ := List.pairwise_cons.mp h
    rw [insertDistinct]
    split
    · rename_i hax
      refine List.pairwise_cons.mpr ⟨List.forall_mem_cons.mpr ⟨hax, ?_⟩, h⟩
      exact fun y hy => Std.TransCmp.lt_trans hax (hx y hy)
    · exact h
    · rename_i hxa
      refine List.pairwise_cons.mpr ⟨?_, ih has⟩
      intro y hy
      rcases mem_insertDistinct.mp hy with rfl | hy
      · exact Std.OrientedCmp.lt_of_gt hxa
      · exact hx y hy

theorem pairwise_ascendingDistinct [Std.TransCmp order] [Std.LawfulEqCmp order] (as : List α) :
    (ascendingDistinct order as).Pairwise (order · · = .lt) := by
  induction as with
  | nil => simp [ascendingDistinct]
  | cons a as ih => exact pairwise_insertDistinct ih

end Distinct

namespace Splitter

instance : Std.TransCmp delimiterOrder :=
  inferInstanceAs (Std.TransCmp (compareLex
    (fun a b => compareOn String.utf8ByteSize b a)
    (compareOn fun a : String => a.toByteArray.data.toList)))

instance : Std.LawfulEqCmp delimiterOrder where
  eq_of_compare {a b} h := by
    have hbytes := (Ordering.then_eq_eq.mp h).2
    exact String.toByteArray_inj.mp
      (ByteArray.ext (Array.toList_inj.mp (Std.LawfulEqCmp.eq_of_compare hbytes)))

theorem utf8ByteSize_le_of_delimiterOrder {a b : String} (h : delimiterOrder a b = .lt) :
    b.utf8ByteSize ≤ a.utf8ByteSize := by
  rcases Ordering.then_eq_lt.mp h with hlt | ⟨heq, -⟩
  · exact Nat.le_of_lt (Nat.compare_eq_lt.mp hlt)
  · exact Nat.le_of_eq (Nat.compare_eq_eq.mp heq)

/-- The list that a splitter keeps of its delimiters. -/
def prepared (ds : List String) : List String :=
  ascendingDistinct delimiterOrder (ds.filter (· ≠ ""))

variable {ds : List String} {d e : String} {rest : List Char}

theorem mem_prepared : d ∈ prepared ds ↔ d ∈ ds ∧ d ≠ "" := by
  rw [prepared, mem_ascendingDistinct, List.mem_filter]
  simp

theorem length_le_of_utf8ByteSize_le (hd : d.toList <+: rest) (he : e.toList <+: rest)
    (h : e.utf8ByteSize ≤ d.utf8ByteSize) : e.toList.length ≤ d.toList.length := by
  rcases List.prefix_or_prefix_of_prefix hd he with ⟨t, ht⟩ | hed
  · obtain rfl : e = d ++ String.ofList t := by
      rw [← String.toList_inj, ← ht, String.toList_append, String.toList_ofList]
    rw [String.utf8ByteSize_append] at h
    have ht : String.ofList t = "" := String.utf8ByteSize_eq_zero_iff.mp (by omega)
    simp [ht]
  · exact hed.length_le

/-- Of the prepared delimiters with which a text begins, the first is the longest. -/
theorem length_le_of_firstAt? (h : Scan.firstAt? (prepared ds) rest = some d)
    (he : e ∈ prepared ds) (hrest : e.toList <+: rest) :
    e.toList.length ≤ d.toList.length := by
  have hd := (Scan.mem_of_firstAt? h).2
  obtain ⟨-, before, after, hds, hbefore⟩ := List.find?_eq_some_iff_append.mp h
  have hsorted : (prepared ds).Pairwise (delimiterOrder · · = .lt) :=
    pairwise_ascendingDistinct _
  rw [hds] at hsorted he
  rcases List.mem_append.mp he with he | he
  · have hnot := hbefore e he
    rw [List.isPrefixOf_iff_prefix.mpr hrest] at hnot
    exact absurd hnot (by decide)
  · rcases List.mem_cons.mp he with rfl | he
    · exact Nat.le_refl _
    · have hafter := (List.pairwise_cons.mp (List.pairwise_append.mp hsorted).2.1).1
      exact length_le_of_utf8ByteSize_le hd hrest
        (utf8ByteSize_le_of_delimiterOrder (hafter e he))

end Splitter

namespace LeftmostLongest

variable {ds : List (List Char)} {d rest : List Char}

theorem longest?_eq_none_iff : longest? ds = none ↔ ds = [] := by
  cases ds with
  | nil => simp [longest?]
  | cons d ds =>
    rw [longest?]
    split
    · simp
    · split <;> simp

theorem length_le_of_longest? (h : longest? ds = some d) : ∀ e ∈ ds, e.length ≤ d.length := by
  induction ds generalizing d with
  | nil => simp
  | cons x ds ih =>
    rw [longest?] at h
    split at h
    · rename_i hnone
      obtain rfl := longest?_eq_none_iff.mp hnone
      obtain rfl := Option.some.inj h
      simp
    · rename_i y hy
      have hds := ih hy
      split at h
      · rename_i hlt
        obtain rfl := Option.some.inj h
        exact List.forall_mem_cons.mpr ⟨Nat.le_of_lt hlt, hds⟩
      · rename_i hle
        obtain rfl := Option.some.inj h
        refine List.forall_mem_cons.mpr ⟨Nat.le_refl _, fun e he => ?_⟩
        exact Nat.le_trans (hds e he) (Nat.le_of_not_lt hle)

theorem mem_candidates_iff :
    d ∈ ds.filter (fun d => d ≠ [] && d.isPrefixOf rest) ↔ d ∈ ds ∧ d ≠ [] ∧ d <+: rest := by
  simp [List.isPrefixOf_iff_prefix]

theorem longestAt?_eq_none_iff :
    longestAt? ds rest = none ↔ ∀ d ∈ ds, d ≠ [] → ¬ d <+: rest := by
  rw [longestAt?, longest?_eq_none_iff, List.eq_nil_iff_forall_not_mem]
  simp only [mem_candidates_iff, not_and]

/-- There is only one longest delimiter at a place, for two of one length are equal. -/
theorem longestAt?_eq_some_iff :
    longestAt? ds rest = some d ↔
      d ∈ ds ∧ d ≠ [] ∧ d <+: rest ∧ ∀ e ∈ ds, e ≠ [] → e <+: rest → e.length ≤ d.length := by
  constructor
  · intro h
    obtain ⟨hd, hne, hprefix⟩ := mem_candidates_iff.mp (mem_of_longest? h)
    refine ⟨hd, hne, hprefix, fun e he hene heprefix => ?_⟩
    exact length_le_of_longest? h e (mem_candidates_iff.mpr ⟨he, hene, heprefix⟩)
  · rintro ⟨hd, hne, hprefix, hmax⟩
    cases h : longestAt? ds rest with
    | none => exact absurd hprefix (longestAt?_eq_none_iff.mp h d hd hne)
    | some e =>
      obtain ⟨he, hene, heprefix⟩ := mem_candidates_iff.mp (mem_of_longest? h)
      have hle := hmax e he hene heprefix
      have hge := length_le_of_longest? h d (mem_candidates_iff.mpr ⟨hd, hne, hprefix⟩)
      have hed := List.prefix_of_prefix_length_le heprefix hprefix hle
      rw [hed.eq_of_length (Nat.le_antisymm hle hge)]

end LeftmostLongest

theorem mem_prepared_iff_toList {ds : List String} {d : String} :
    d ∈ Splitter.prepared ds ↔ d ∈ ds ∧ d.toList ≠ [] := by
  rw [Splitter.mem_prepared, ne_eq, ne_eq, String.toList_eq_nil_iff]

/-- The first of the prepared delimiters is the longest of the given ones. -/
theorem longestAt?_eq_map_firstAt? (ds : List String) (rest : List Char) :
    LeftmostLongest.longestAt? (ds.map String.toList) rest =
      (Scan.firstAt? (Splitter.prepared ds) rest).map String.toList := by
  cases h : Scan.firstAt? (Splitter.prepared ds) rest with
  | none =>
    apply LeftmostLongest.longestAt?_eq_none_iff.mpr
    refine List.forall_mem_map.mpr fun d hd hne hprefix => ?_
    exact Scan.firstAt?_eq_none_iff.mp h d (mem_prepared_iff_toList.mpr ⟨hd, hne⟩) hprefix
  | some d =>
    apply LeftmostLongest.longestAt?_eq_some_iff.mpr
    obtain ⟨hmem, hprefix⟩ := Scan.mem_of_firstAt? h
    obtain ⟨hd, hne⟩ := mem_prepared_iff_toList.mp hmem
    refine ⟨List.mem_map_of_mem hd, hne, hprefix, ?_⟩
    refine List.forall_mem_map.mpr fun e he hene heprefix => ?_
    exact Splitter.length_le_of_firstAt? h (mem_prepared_iff_toList.mpr ⟨he, hene⟩) heprefix

end Signatures
