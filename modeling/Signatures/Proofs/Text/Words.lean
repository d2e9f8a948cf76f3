import Mathlib.Data.List.TakeDrop
import Signatures.Reader

/-!
# Dividing at a separator

`words` reads a text as pieces with a separator between any two. The reading never refuses and never
stops early: its pieces are those of `List.splitOn`, the only pieces free of the separator that give
the text when they are joined again.
-/

namespace Signatures

set_option autoImplicit false

variable {c : Char}

theorem takeTill_eq (stop : Char → Bool) (s : List Char) :
    Reader.takeTill stop s = some (s.takeWhile fun c => !stop c, s.dropWhile fun c => !stop c) := by
  rw [Reader.takeTill, List.span_eq_takeWhile_dropWhile]

/-- Up to the first separator the text is one piece; the other pieces begin behind it. -/
theorem splitOn_eq_takeWhile_cons (c : Char) (s : List Char) :
    s.splitOn c = s.takeWhile (· ≠ c) :: ((s.dropWhile (· ≠ c)).splitOn c).tail := by
  induction s with
  | nil => simp
  | cons a s ih =>
    by_cases h : a = c
    · simp [List.splitOn_cons_eq_if_modifyHead, h]
    · rw [List.splitOn_cons_eq_if_modifyHead, if_neg (by simpa using h), ih]
      simp [h]

/-- A text that stands behind a piece: it is empty or begins with the separator. -/
def AtSeparator (c : Char) (s : List Char) : Prop :=
  ∀ a ∈ s.head?, a = c

theorem atSeparator_dropWhile (c : Char) (s : List Char) :
    AtSeparator c (s.dropWhile (· ≠ c)) := by
  intro a ha
  have h := List.head?_dropWhile_not (· ≠ c) s
  simp_all

namespace Reader

section Repeats

variable {α β : Type} {separator : Reader β} {item : Reader α} {s rest last : List Char} {first : α}
  {as : List α}

theorem Repeats.rounds_eq (h : Repeats separator item s as last) {limit : Nat}
    (hlimit : as.length ≤ limit) : rounds separator item limit s = some (as, last) := by
  induction h generalizing limit with
  | noSeparator hs =>
    unfold rounds
    simp [bind, hs]
  | noItem hs _ hitem =>
    unfold rounds
    simp [bind, hs, hitem]
  | round hs _ hitem _ ih =>
    cases limit with
    | zero => exact absurd hlimit (Nat.not_succ_le_zero _)
    | succ limit =>
      unfold rounds
      simp [bind, hs, hitem, ih (Nat.le_of_succ_le_succ hlimit)]

/-- A text holds no more rounds than characters, for every separator takes one. -/
theorem Repeats.length_le (h : Repeats separator item s as last)
    (hitem : ∀ s a rest, item s = some (a, rest) → rest.length ≤ s.length) :
    as.length ≤ s.length := by
  induction h with
  | noSeparator => exact Nat.zero_le _
  | noItem => exact Nat.zero_le _
  | round _ hshorter ha _ ih =>
    have hrest := hitem _ _ _ ha
    rw [List.length_cons]
    omega

/-- The limit on the rounds of a separated list is never what ends them. -/
theorem Repeats.separatedBy_eq (h : Repeats separator item rest as last)
    (hfirst : item s = some (first, rest))
    (hitem : ∀ s a rest, item s = some (a, rest) → rest.length ≤ s.length) :
    separatedBy separator item s = some (first :: as, last) := by
  simp only [separatedBy, hfirst, Option.bind_some, h.rounds_eq (h.length_le hitem),
    Option.map_some]

end Repeats

theorem length_le_of_takeTill (stop : Char → Bool) (s w rest : List Char)
    (h : takeTill stop s = some (w, rest)) : rest.length ≤ s.length := by
  rw [takeTill_eq] at h
  obtain ⟨-, rfl⟩ := Prod.mk.inj (Option.some.inj h)
  exact (List.dropWhile_sublist _).length_le

/-- Behind a piece, every round takes one separator and the piece up to the next. -/
theorem repeats_splitOn : ∀ s : List Char, AtSeparator c s →
    Repeats (satisfying (· = c)) (takeTill (· = c)) s (s.splitOn c).tail []
  | [], _ => .noSeparator rfl
  | a :: s, hs => by
    obtain rfl : c = a := (hs a rfl).symm
    have hseparator : satisfying (· = c) (c :: s) = some (c, s) := by simp [satisfying]
    have hpiece : takeTill (· = c) s = some (s.takeWhile (· ≠ c), s.dropWhile (· ≠ c)) := by
      simp [takeTill_eq]
    have hrest := repeats_splitOn _ (atSeparator_dropWhile c s)
    have hround := Repeats.round hseparator (by simp) hpiece hrest
    rw [← splitOn_eq_takeWhile_cons] at hround
    simpa [List.splitOn_cons_eq_if_modifyHead] using hround
termination_by s => s.length
decreasing_by
  have hlength := (List.dropWhile_sublist (· ≠ c) (l := s)).length_le
  simp at hlength ⊢
  omega

end Reader

/-- The pieces that are read are those between the separators, and nothing is left of the text. -/
theorem words_eq_splitOn (c : Char) (s : List Char) : words c s = some (s.splitOn c) := by
  have hrest := Reader.repeats_splitOn _ (atSeparator_dropWhile c s)
  have hfirst : Reader.takeTill (· = c) s = some (s.takeWhile (· ≠ c), s.dropWhile (· ≠ c)) := by
    simp [takeTill_eq]
  rw [words, Reader.complete, hrest.separatedBy_eq hfirst (Reader.length_le_of_takeTill _),
    splitOn_eq_takeWhile_cons c s]

theorem not_mem_of_mem_splitOn {s w : List Char} (hw : w ∈ s.splitOn c) : c ∉ w := by
  induction s generalizing w with
  | nil => simp_all
  | cons a s ih =>
    rw [List.splitOn_cons_eq_if_modifyHead] at hw
    split at hw
    · rcases List.mem_cons.mp hw with rfl | hw
      · simp
      · exact ih hw
    · rename_i hac
      obtain ⟨v, vs, hvs⟩ := List.exists_cons_of_ne_nil (List.splitOn_ne_nil c s)
      rw [hvs, List.modifyHead_cons] at hw
      rcases List.mem_cons.mp hw with rfl | hw
      · have hv := ih (hvs ▸ List.mem_cons_self)
        have hca : c ≠ a := by
          rintro rfl
          exact hac (beq_self_eq_true c)
        exact List.not_mem_cons_of_ne_of_not_mem hca hv
      · exact ih (hvs ▸ List.mem_cons_of_mem v hw)

/-- Dividing is the only inverse of joining on pieces without the separator. -/
theorem splitOn_eq_iff {s : List Char} {ws : List (List Char)} (hws : ws ≠ []) :
    s.splitOn c = ws ↔ (∀ w ∈ ws, c ∉ w) ∧ s = [c].intercalate ws := by
  constructor
  · rintro rfl
    exact ⟨fun w => not_mem_of_mem_splitOn, (List.intercalate_splitOn c).symm⟩
  · rintro ⟨hfree, rfl⟩
    exact List.splitOn_intercalate c hfree hws

/-- Text without a separator that is put before another belongs to its first piece. -/
theorem splitOn_append_left {u : List Char} (hu : c ∉ u) (s : List Char) :
    (u ++ s).splitOn c = (s.splitOn c).modifyHead (u ++ ·) := by
  obtain ⟨w, ws, hws⟩ := List.exists_cons_of_ne_nil (List.splitOn_ne_nil c s)
  induction u with
  | nil => simp [hws]
  | cons a u ih =>
    have ha : c ≠ a := List.ne_of_not_mem_cons hu
    rw [List.cons_append, List.splitOn_cons_eq_if_modifyHead,
      ih (List.not_mem_of_not_mem_cons hu), hws]
    simp [Ne.symm ha]

theorem exists_splitOn_append_right {v : List Char} (hv : c ∉ v) (s : List Char) :
    ∃ ws w, s.splitOn c = ws ++ [w] ∧ (s ++ v).splitOn c = ws ++ [w ++ v] := by
  induction s with
  | nil => exact ⟨[], [], by simp, by simp [List.splitOn_eq_singleton hv]⟩
  | cons a s ih =>
    obtain ⟨ws, w, hs, hsv⟩ := ih
    by_cases ha : a = c
    · refine ⟨[] :: ws, w, ?_, ?_⟩
      · simp [List.splitOn_cons_eq_if_modifyHead, ha, hs]
      · simp [List.splitOn_cons_eq_if_modifyHead, ha, hsv]
    · cases ws with
      | nil =>
        refine ⟨[], a :: w, ?_, ?_⟩
        · simp [List.splitOn_cons_eq_if_modifyHead, ha, hs]
        · simp [List.splitOn_cons_eq_if_modifyHead, ha, hsv]
      | cons x ws =>
        refine ⟨(a :: x) :: ws, w, ?_, ?_⟩
        · simp [List.splitOn_cons_eq_if_modifyHead, ha, hs]
        · simp [List.splitOn_cons_eq_if_modifyHead, ha, hsv]

end Signatures
