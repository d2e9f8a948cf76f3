import Signatures.Proofs.Splitter.WholeDelimiters

/-!
# Tokens joined again

Tokens that are joined with the delimiter they were cut at are cut into the same tokens. A
delimiter that overlaps itself could begin in a token and end in the delimiter behind it; but every
token except the last stood before a delimiter in the text already, and nothing was found there.
With one delimiter this does not depend on what follows the delimiter, so it still holds in the
joined text.
-/

namespace Signatures

set_option autoImplicit false

namespace LeftmostLongest

variable {d token rest t r : List Char} {ds ts : List (List Char)} {c : Char}

theorem longestAt?_eq_none_of_append (h : longestAt? ds (t ++ r) = none) :
    longestAt? ds t = none := by
  apply longestAt?_eq_none_iff.mpr
  intro e he hne hbegins
  exact longestAt?_eq_none_iff.mp h e he hne (hbegins.trans (List.prefix_append t r))

theorem longestAt?_singleton_append (hd : d ≠ []) (r : List Char) :
    longestAt? [d] (d ++ r) = some d :=
  longestAt?_eq_some_iff.mpr ⟨by simp, hd, List.prefix_append d r, by simp⟩

/-- Whether a delimiter begins in a token that the same delimiter follows does not depend on the
text behind. -/
theorem unbroken_append_iff : Unbroken [d] t (d ++ r) ↔ Unbroken [d] t d := by
  constructor
  · intro h v hv hne
    apply longestAt?_eq_none_of_append (r := r)
    rw [List.append_assoc]
    exact h v hv hne
  · intro h v hv hne
    apply longestAt?_eq_none_iff.mpr
    rintro e he hene hbegins
    obtain rfl := List.mem_singleton.mp he
    have hkept : v ++ e <+: v ++ (e ++ r) := by
      rw [← List.append_assoc]
      exact List.prefix_append (v ++ e) r
    have hshort : e <+: v ++ e := List.prefix_of_prefix_length_le hbegins hkept (by simp)
    exact longestAt?_eq_none_iff.mp (h v hv hne) e he hene hshort

theorem Unbroken.tail (h : Unbroken ds (c :: t) rest) : Unbroken ds t rest :=
  fun v hv hne => h v (hv.trans (List.suffix_cons c t)) hne

/-- Where no delimiter begins in a token, the cut is made at the delimiter behind the token. -/
theorem cut_append (hd : d ≠ []) (h : Unbroken [d] t (d ++ r)) (token : List Char) :
    cut [d] token (t ++ (d ++ r)) = (token ++ t) :: cut [d] [] r := by
  induction t generalizing token with
  | nil =>
    obtain ⟨x, s, hx⟩ := List.exists_cons_of_ne_nil (List.append_ne_nil_of_left_ne_nil hd r)
    have hlongest := longestAt?_singleton_append hd r
    rw [hx] at hlongest
    rw [List.nil_append, hx, cut_delimiter hlongest, ← hx, List.drop_left, List.append_nil]
  | cons c t ih =>
    have hnone : longestAt? [d] (c :: (t ++ (d ++ r))) = none :=
      h (c :: t) List.suffix_rfl (by simp)
    rw [List.cons_append, cut_character hnone, ih h.tail]
    simp

/-- Pieces into which the delimiter cuts the text that it joins: it begins in none that it
follows, and it does not stand in the last. -/
inductive Rejoinable (d : List Char) : List (List Char) → Prop
  | nil : Rejoinable d []
  | last {t : List Char} : IsClean [d] t → Rejoinable d [t]
  | cons {t : List Char} {ts : List (List Char)} :
      d ≠ [] → Unbroken [d] t d → Rejoinable d ts → Rejoinable d (t :: ts)

theorem rejoinable_cut (h : Unbroken [d] token rest) : Rejoinable d (cut [d] token rest) := by
  induction token, rest using cut.induct [d] with
  | case1 token =>
    rw [cut_nil]
    exact .last h.isClean
  | case2 token c rest e he ih =>
    obtain ⟨hmem, hne, ⟨behind, hbehind⟩, -⟩ := longestAt?_eq_some_iff.mp he
    obtain rfl := List.mem_singleton.mp hmem
    rw [← hbehind] at h
    rw [cut_delimiter he]
    exact .cons hne (unbroken_append_iff.mp h) (ih (unbroken_nil _ _))
  | case3 token c rest hc ih =>
    rw [cut_character hc]
    exact ih (h.character hc)

namespace Rejoinable

/-- Leaving pieces out keeps the others: one that becomes the last is clean because the delimiter
does not even begin in it. -/
theorem filter (h : Rejoinable d ts) (p : List Char → Bool) : Rejoinable d (ts.filter p) := by
  induction h with
  | nil => exact .nil
  | @last t ht =>
    by_cases hp : p t = true
    · rw [List.filter_cons_of_pos hp]
      exact .last ht
    · rw [List.filter_cons_of_neg hp]
      exact .nil
  | @cons t ts hd ht _ ih =>
    by_cases hp : p t = true
    · rw [List.filter_cons_of_pos hp]
      exact .cons hd ht ih
    · rw [List.filter_cons_of_neg hp]
      exact ih

theorem cut_intercalate (h : Rejoinable d ts) (hne : ts ≠ []) :
    cut [d] [] (d.intercalate ts) = ts := by
  induction h with
  | nil => exact absurd rfl hne
  | last ht => rw [List.intercalate_singleton, cut_eq_singleton ht, List.nil_append]
  | @cons t ts hd ht hts ih =>
    cases ts with
    | nil => rw [List.intercalate_singleton, cut_eq_singleton ht.isClean, List.nil_append]
    | cons u us =>
      rw [List.intercalate_cons_cons, List.append_assoc, cut_append hd (unbroken_append_iff.mpr ht),
        ih (by simp), List.nil_append]

end Rejoinable

end LeftmostLongest

open LeftmostLongest Splitter

/-- The tokens of a single delimiter, joined with the delimiter, are split into themselves again. -/
theorem split_intercalate_split (source d : String) :
    (ofDelimiters .delimiters [d]).split
        (d.intercalate ((ofDelimiters .delimiters [d]).split source)) =
      (ofDelimiters .delimiters [d]).split source := by
  have htokens : Rejoinable d.toList ((cut [d.toList] [] source.toList).filter (· ≠ [])) :=
    (rejoinable_cut (unbroken_nil _ _)).filter _
  have hkept : ∀ t ∈ (cut [d.toList] [] source.toList).filter (· ≠ []), t ≠ [] := by
    intro t ht
    simpa using (List.mem_filter.mp ht).2
  simp only [split_delimiters_eq_cut, List.map_cons, List.map_nil]
  generalize (cut [d.toList] [] source.toList).filter (· ≠ []) = ts at htokens hkept
  have hjoined : (d.intercalate (ts.map String.ofList)).toList = d.toList.intercalate ts := by
    simp
  rw [hjoined]
  congr 1
  by_cases hne : ts = []
  · simp [hne, cut_nil]
  · rw [htokens.cut_intercalate hne]
    exact List.filter_eq_self.mpr (by simpa using hkept)

/-- With a second delimiter, tokens may be joined to one. -/
example :
    (ofDelimiters .delimiters [",", "x,y"]).split "xx,yy" = ["x", "y"] ∧
      (ofDelimiters .delimiters [",", "x,y"]).split (",".intercalate ["x", "y"]) = [] := by
  decide +kernel

end Signatures
