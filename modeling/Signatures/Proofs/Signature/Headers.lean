import Mathlib.Data.List.DropRight
import Signatures.Proofs.Text.Words
import Signatures.Signature.Grammar

/-!
# Reading headers

Dividing a header at its spaces gives its words and one empty piece for every space behind the last.
Taking away the empty pieces at the end therefore leaves the words, and any other empty piece is a
fault of the header. Without words the text is all spaces, and it has one piece more than spaces.
-/

namespace Signatures

set_option autoImplicit false

variable {c : Char} {s : List Char} {ws : List (List Char)} {h : Header}

/-- Two or three words with one space between them, and any number of spaces at the end. -/
def IsHeader (s : List Char) : Prop :=
  ∃ ws, (ws.length = 2 ∨ ws.length = 3) ∧ HeaderText s ws

theorem splitOn_append_replicate (c : Char) (s : List Char) (k : Nat) :
    (s ++ List.replicate k c).splitOn c = s.splitOn c ++ List.replicate k [] := by
  induction k with
  | zero => simp
  | succ k ih =>
    rw [List.replicate_succ', ← List.append_assoc, List.splitOn_append_cons_self, ih,
      List.replicate_succ', List.append_assoc, List.splitOn_nil]

theorem splitOn_injective (c : Char) : Function.Injective (List.splitOn c) :=
  Function.LeftInverse.injective (g := [c].intercalate) fun _ => List.intercalate_splitOn c

theorem dropEmptyEnd_append_replicate (ws : List (List Char)) (k : Nat) :
    dropEmptyEnd (ws ++ List.replicate k []) = dropEmptyEnd ws := by
  induction k with
  | zero => simp
  | succ k ih =>
    rw [List.replicate_succ', ← List.append_assoc]
    exact (List.rdropWhile_concat_pos _ _ _ rfl).trans ih

theorem dropEmptyEnd_eq_self (hws : ∀ w ∈ ws, w ≠ []) : dropEmptyEnd ws = ws := by
  apply List.rdropWhile_eq_self_iff.mpr
  intro hne
  simpa using hws _ (List.getLast_mem hne)

theorem exists_eq_dropEmptyEnd_append (ws : List (List Char)) :
    ∃ k, ws = dropEmptyEnd ws ++ List.replicate k [] := by
  refine ⟨(ws.rtakeWhile List.isEmpty).length, ?_⟩
  have hempty : ws.rtakeWhile List.isEmpty =
      List.replicate (ws.rtakeWhile List.isEmpty).length [] :=
    List.eq_replicate_of_mem fun w hw => List.isEmpty_iff.mp (List.mem_rtakeWhile_imp hw)
  rw [← hempty]
  exact List.rdropWhile_append_rtakeWhile.symm

/-- The words that are left of a text are those by which the grammar makes it a header. -/
theorem dropEmptyEnd_splitOn_iff :
    (dropEmptyEnd (s.splitOn ' ') = ws ∧ ∀ w ∈ ws, w ≠ []) ↔ HeaderText s ws := by
  constructor
  · rintro ⟨rfl, hws⟩
    obtain ⟨k, hk⟩ := exists_eq_dropEmptyEnd_append (s.splitOn ' ')
    generalize dropEmptyEnd (s.splitOn ' ') = ws at hws hk
    have hwords : ∀ w ∈ ws, IsWord w := fun w hw =>
      ⟨hws w hw, not_mem_of_mem_splitOn (hk ▸ List.mem_append_left _ hw)⟩
    refine ⟨hwords, ?_⟩
    cases ws with
    | nil =>
      cases k with
      | zero => exact absurd hk (List.splitOn_ne_nil ' ' s)
      | succ k =>
        refine ⟨k, splitOn_injective ' ' ?_⟩
        rw [hk, splitOn_append_replicate]
        simp [List.replicate_succ]
    | cons w ws =>
      refine ⟨k, splitOn_injective ' ' ?_⟩
      rw [hk, splitOn_append_replicate,
        List.splitOn_intercalate ' ' (fun w hw => (hwords w hw).2) (by simp)]
  · rintro ⟨hws, k, rfl⟩
    have hne : ∀ w ∈ ws, w ≠ [] := fun w hw => (hws w hw).1
    refine ⟨?_, hne⟩
    rw [splitOn_append_replicate, dropEmptyEnd_append_replicate]
    cases ws with
    | nil => rfl
    | cons w ws =>
      rw [List.splitOn_intercalate ' ' (fun w hw => (hws w hw).2) (by simp)]
      exact dropEmptyEnd_eq_self hne

theorem Header.ofWords?_eq_some_iff :
    Header.ofWords? ws = some h ↔ ws = h.toList.map String.toList := by
  constructor
  · intro hws
    unfold Header.ofWords? at hws
    split at hws
    · obtain rfl := Option.some.inj hws
      simp [Header.toList]
    · obtain rfl := Option.some.inj hws
      simp [Header.toList]
    · simp at hws
  · rintro rfl
    obtain ⟨modifier, returnType, name⟩ := h
    cases modifier <;> simp [Header.toList, Header.ofWords?]

theorem Header.exists_toList_iff :
    (∃ h : Header, ws = h.toList.map String.toList) ↔ ws.length = 2 ∨ ws.length = 3 := by
  constructor
  · rintro ⟨⟨modifier, returnType, name⟩, rfl⟩
    cases modifier <;> simp [Header.toList]
  · rintro (hlength | hlength)
    · obtain ⟨returnType, name, rfl⟩ := List.length_eq_two.mp hlength
      exact ⟨⟨none, String.ofList returnType, String.ofList name⟩, by simp [Header.toList]⟩
    · obtain ⟨modifier, returnType, name, rfl⟩ := List.length_eq_three.mp hlength
      exact ⟨⟨some (String.ofList modifier), String.ofList returnType, String.ofList name⟩,
        by simp [Header.toList]⟩

/-- The header that is read is the one that the grammar admits. -/
theorem Header.ofText?_eq_some_iff :
    Header.ofText? s = some h ↔ HeaderText s (h.toList.map String.toList) := by
  have hread : Header.ofText? s = some h ↔
      (∀ w ∈ dropEmptyEnd (s.splitOn ' '), w ≠ []) ∧
        Header.ofWords? (dropEmptyEnd (s.splitOn ' ')) = some h := by
    rw [Header.ofText?, words_eq_splitOn, Option.bind_some]
    dsimp only
    split
    · rename_i hany
      obtain ⟨w, hw, hempty⟩ := List.any_eq_true.mp hany
      simp only [reduceCtorEq, false_iff, not_and]
      exact fun hne => absurd (List.isEmpty_iff.mp hempty) (hne w hw)
    · rename_i hany
      simp only [List.any_eq_true, not_exists, not_and, List.isEmpty_iff] at hany
      exact ⟨fun hh => ⟨hany, hh⟩, And.right⟩
  rw [hread, Header.ofWords?_eq_some_iff, ← dropEmptyEnd_splitOn_iff]
  constructor
  · rintro ⟨hne, hws⟩
    exact ⟨hws, hws ▸ hne⟩
  · rintro ⟨hws, hne⟩
    exact ⟨hws ▸ hne, hws⟩

theorem Header.exists_ofText?_iff : (∃ h, Header.ofText? s = some h) ↔ IsHeader s := by
  simp only [Header.ofText?_eq_some_iff, IsHeader, ← Header.exists_toList_iff]
  constructor
  · rintro ⟨h, hs⟩
    exact ⟨_, ⟨h, rfl⟩, hs⟩
  · rintro ⟨_, ⟨h, rfl⟩, hs⟩
    exact ⟨h, hs⟩

theorem Header.read_eq_ok_iff : Header.read s = .ok h ↔ Header.ofText? s = some h := by
  rw [Header.read]
  cases Header.ofText? s <;> simp

theorem Header.read_eq_error_iff {e : Rejection} :
    Header.read s = .error e ↔ ¬ IsHeader s ∧ e = .header (String.ofList s) := by
  rw [Header.read, ← Header.exists_ofText?_iff]
  cases Header.ofText? s <;> simp [eq_comm]

end Signatures
