import Mathlib.Data.List.DropRight
import Signatures.Proofs.Text.Words
import Signatures.Signature.Grammar

/-!
# Trimming

A text is its trimmed form between two blank texts, and the trimmed form neither begins nor ends
with a blank character. Both facts together determine it.
-/

namespace Signatures

open Text
set_option autoImplicit false

variable {s t u v : List Char}

instance : DecidablePred IsBlank :=
  fun s => List.decidableBAll (isBlank · = true) s

/-- A text that neither begins nor ends with a blank character. -/
def IsTrimmed (s : List Char) : Prop :=
  (∀ c ∈ s.head?, isBlank c = false) ∧ ∀ c ∈ s.getLast?, isBlank c = false

theorem isBlank_append : IsBlank (u ++ v) ↔ IsBlank u ∧ IsBlank v :=
  List.forall_mem_append

theorem IsBlank.reverse (hu : IsBlank u) : IsBlank u.reverse :=
  fun c hc => hu c (List.mem_reverse.mp hc)

theorem not_blank_of_mem_head?_dropWhile (s : List Char) :
    ∀ c ∈ (s.dropWhile isBlank).head?, isBlank c = false := by
  intro c hc
  have h := List.head?_dropWhile_not isBlank s
  rw [Option.mem_def.mp hc] at h
  exact h

theorem exists_eq_append_trim (s : List Char) :
    ∃ u v, IsBlank u ∧ IsBlank v ∧ s = u ++ trim s ++ v := by
  refine ⟨s.takeWhile isBlank, (s.dropWhile isBlank).rtakeWhile isBlank, ?_, ?_, ?_⟩
  · exact fun c hc => List.mem_takeWhile_imp hc
  · exact fun c hc => List.mem_rtakeWhile_imp hc
  · change s = _ ++ (s.dropWhile isBlank).rdropWhile isBlank ++ _
    rw [List.append_assoc, List.rdropWhile_append_rtakeWhile, List.takeWhile_append_dropWhile]

theorem isTrimmed_trim (s : List Char) : IsTrimmed (trim s) := by
  constructor
  · intro c hc
    obtain ⟨r, hr⟩ := List.head?_eq_some_iff.mp hc
    have hprefix : trim s <+: s.dropWhile isBlank := List.rdropWhile_prefix _ _
    obtain ⟨v, hv⟩ := hprefix
    apply not_blank_of_mem_head?_dropWhile s
    rw [← hv, hr]
    rfl
  · rw [trim, List.getLast?_reverse]
    exact not_blank_of_mem_head?_dropWhile _

theorem dropWhile_append_of_isBlank (hu : IsBlank u) (ht : ∀ c ∈ t.head?, isBlank c = false) :
    (u ++ t).dropWhile isBlank = t := by
  rw [List.dropWhile_append_of_pos hu]
  cases t with
  | nil => rfl
  | cons c t => exact List.dropWhile_cons_of_neg (by simp [ht c rfl])

theorem trim_eq_nil_iff : trim s = [] ↔ IsBlank s := by
  constructor
  · intro h
    obtain ⟨u, v, hu, hv, hs⟩ := exists_eq_append_trim s
    rw [hs, h, List.append_nil]
    exact isBlank_append.mpr ⟨hu, hv⟩
  · intro h
    rw [trim, List.dropWhile_eq_nil_iff.mpr h]
    rfl

/-- Blank characters around a trimmed text are what trimming takes away. -/
theorem trim_append_of_isTrimmed (hu : IsBlank u) (hv : IsBlank v) (ht : IsTrimmed t) :
    trim (u ++ t ++ v) = t := by
  cases t with
  | nil =>
    rw [List.append_nil]
    exact trim_eq_nil_iff.mpr (isBlank_append.mpr ⟨hu, hv⟩)
  | cons c t =>
    have hfront : (u ++ (c :: t ++ v)).dropWhile isBlank = c :: t ++ v :=
      dropWhile_append_of_isBlank hu ht.1
    have hreverse : (c :: t ++ v).reverse.dropWhile isBlank = (c :: t).reverse := by
      rw [List.reverse_append]
      apply dropWhile_append_of_isBlank hv.reverse
      rw [List.head?_reverse]
      exact ht.2
    rw [trim, List.append_assoc, hfront, hreverse, List.reverse_reverse]

theorem trim_append (hu : IsBlank u) (hv : IsBlank v) (s : List Char) :
    trim (u ++ s ++ v) = trim s := by
  obtain ⟨x, y, hx, hy, hs⟩ := exists_eq_append_trim s
  have h : u ++ s ++ v = (u ++ x) ++ trim s ++ (y ++ v) := by
    conv_lhs => rw [hs]
    simp only [List.append_assoc]
  rw [h]
  exact trim_append_of_isTrimmed (isBlank_append.mpr ⟨hu, hx⟩) (isBlank_append.mpr ⟨hy, hv⟩)
    (isTrimmed_trim s)

theorem IsBlank.comma_not_mem (hu : IsBlank u) : ',' ∉ u := by
  intro h
  have hcomma : isBlank ',' = false := by decide
  simp [hu ',' h] at hcomma

/-- Blank characters around a list belong to its outermost pieces, which are trimmed anyway. -/
theorem map_trim_splitOn_append (hu : IsBlank u) (hv : IsBlank v) (s : List Char) :
    ((u ++ s ++ v).splitOn ',').map trim = (s.splitOn ',').map trim := by
  obtain ⟨ws, w, hs, hsv⟩ := exists_splitOn_append_right hv.comma_not_mem s
  have hlast : trim (w ++ v) = trim w := trim_append (u := []) (by decide) hv w
  have hright : ((s ++ v).splitOn ',').map trim = (s.splitOn ',').map trim := by
    simp [hs, hsv, hlast]
  obtain ⟨x, xs, hx⟩ := List.exists_cons_of_ne_nil (List.splitOn_ne_nil ',' (s ++ v))
  have hfirst : trim (u ++ x) = trim x := by
    simpa using trim_append hu (v := []) (by decide) x
  rw [List.append_assoc, splitOn_append_left hu.comma_not_mem, ← hright, hx]
  simp [hfirst]

theorem map_trim_splitOn_trim (s : List Char) :
    ((trim s).splitOn ',').map trim = (s.splitOn ',').map trim := by
  obtain ⟨u, v, hu, hv, hs⟩ := exists_eq_append_trim s
  conv_rhs => rw [hs]
  exact (map_trim_splitOn_append hu hv (trim s)).symm

end Signatures
