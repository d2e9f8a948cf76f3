import Signatures.Proofs.Signature.WellFormed
import Signatures.Signature.Reading

/-!
# Reading results again

A rejection cites text without parentheses, and such a text is read as a header alone. What is read
again is therefore never rejected for a parameter, and apart from those rejections every result is
read again as it is. A cited parameter has no blank characters at its ends and is no pair of words,
so that only three words make a header of it.
-/

namespace Signatures

open Signature
set_option autoImplicit false

variable {s t u v w : String} {a x : List Char} {m : Signature}

/-- A text that consists of three words with one space between any two. -/
def IsWordTriple (u v w t : String) : Prop :=
  IsWord u.toList ∧ IsWord v.toList ∧ IsWord w.toList ∧ t = u ++ " " ++ v ++ " " ++ w

theorem exists_trim_of_mem_pieces (hx : x ∈ pieces a) :
    ∃ y ∈ (Text.trim a).splitOn ',', x = Text.trim y := by
  rw [pieces] at hx
  split at hx
  · simp at hx
  · obtain ⟨y, hy, rfl⟩ := List.mem_map.mp hx
    exact ⟨y, hy, rfl⟩

theorem isTrimmed_of_mem_pieces (hx : x ∈ pieces a) : IsTrimmed x := by
  obtain ⟨y, -, rfl⟩ := exists_trim_of_mem_pieces hx
  exact isTrimmed_trim y

theorem isSection_trim (ha : IsSection a) : IsSection (Text.trim a) := by
  obtain ⟨y, z, -, -, hsplit⟩ := exists_eq_append_trim a
  rw [hsplit] at ha
  exact (isSection_append.mp (isSection_append.mp ha).1).2

theorem isSection_of_mem_pieces (ha : IsSection a) (hx : x ∈ pieces a) : IsSection x := by
  obtain ⟨y, hy, rfl⟩ := exists_trim_of_mem_pieces hx
  have hjoined : IsSection ([','].intercalate ((Text.trim a).splitOn ',')) := by
    rw [List.intercalate_splitOn]
    exact isSection_trim ha
  exact isSection_trim ((isSection_intercalate (by decide)).mp hjoined y hy)

theorem parse_eq_ok_iff_of_isSection (ht : IsSection t.toList) :
    parse t = .ok m ↔
      m.parameters = [] ∧ HeaderText t.toList (m.headerWords.map String.toList) := by
  rw [parse_eq_ok_sections_iff, headerPart_of_isSection ht, parameterPart_of_isSection ht]
  have hnone : Parameter.readList [] = .ok [] := rfl
  rw [hnone, Except.ok.injEq, eq_comm (a := [])]

theorem parse_ne_parameter_of_isSection (ht : IsSection t.toList) :
    parse t ≠ .error (.parameter u) := by
  intro h
  obtain ⟨before, after, hpieces, -⟩ := parse_eq_parameter_iff.mp h
  rw [parameterPart_of_isSection ht, pieces_eq_nil (by simp [IsBlank])] at hpieces
  simp at hpieces

theorem parse_eq_header_iff_of_isSection (ht : IsSection t.toList) :
    parse t = .error (.header u) ↔ u = t ∧ ¬ IsHeader t.toList := by
  rw [parse_eq_header_iff, headerPart_of_isSection ht, parameterPart_of_isSection ht,
    pieces_eq_nil (by simp [IsBlank]), String.toList_inj]
  simp

/-- A result that does not reject a parameter is read again as it is. -/
theorem reparse_parse_eq_self (h : ∀ t, parse s ≠ .error (.parameter t)) :
    reparse (parse s) = parse s := by
  cases hs : parse s with
  | ok m => exact parse_render_eq_ok_iff_wellFormed.mpr (denotes_of_parse hs).wellFormed
  | error e =>
    cases e with
    | parameter t => exact absurd hs (h t)
    | header t =>
      obtain ⟨-, ht, hheader⟩ := parse_eq_header_iff.mp hs
      have hsection : IsSection t.toList := ht ▸ isSection_headerPart s.toList
      exact (parse_eq_header_iff_of_isSection hsection).mpr ⟨rfl, ht ▸ hheader⟩

theorem HeaderText.eq_intercalate {ws : List (List Char)} (h : HeaderText a ws)
    (ha : IsTrimmed a) : a = [' '].intercalate ws := by
  obtain ⟨-, k, hk⟩ := h
  cases k with
  | zero => simpa using hk
  | succ k =>
    have hlast : a.getLast? = some ' ' := by
      rw [hk, List.replicate_succ', ← List.append_assoc, List.getLast?_concat]
    have hspace := ha.2 ' ' hlast
    exact absurd hspace (by decide)

/-- A trimmed text that is no parameter makes a header when it has three words. -/
theorem parse_eq_ok_iff_isWordTriple (ht : IsSection t.toList) (htrimmed : IsTrimmed t.toList)
    (hpair : ¬ IsWordPair t.toList) :
    parse t = .ok m ↔ ∃ u v w, IsWordTriple u v w t ∧ m = ⟨some u, v, w, []⟩ := by
  rw [parse_eq_ok_iff_of_isSection ht]
  constructor
  · rintro ⟨hparameters, hheader⟩
    obtain ⟨modifier, returnType, name, parameters⟩ := m
    have htext := hheader.eq_intercalate htrimmed
    cases modifier with
    | none =>
      obtain ⟨htype, hname⟩ : IsWord returnType.toList ∧ IsWord name.toList := by
        simpa [headerWords, Header.toList] using hheader.1
      refine absurd ⟨returnType.toList, name.toList, htype, hname, ?_⟩ hpair
      simpa [headerWords, Header.toList] using htext
    | some modifier =>
      obtain ⟨hmodifier, htype, hname⟩ :
          IsWord modifier.toList ∧ IsWord returnType.toList ∧ IsWord name.toList := by
        simpa [headerWords, Header.toList] using hheader.1
      refine ⟨modifier, returnType, name, ⟨hmodifier, htype, hname, ?_⟩, ?_⟩
      · rw [← String.toList_inj, htext]
        simp [headerWords, Header.toList]
      · obtain rfl : parameters = [] := hparameters
        rfl
  · rintro ⟨u, v, w, ⟨hu, hv, hw, rfl⟩, rfl⟩
    refine ⟨rfl, ?_, 0, ?_⟩
    · simp [headerWords, Header.toList, hu, hv, hw]
    · simp [headerWords, Header.toList]

/-- A cited parameter is a trimmed text without parentheses that is no pair of words. -/
theorem cited_of_parse_eq_parameter (h : parse s = .error (.parameter t)) :
    IsSection t.toList ∧ IsTrimmed t.toList ∧ ¬ IsWordPair t.toList := by
  obtain ⟨before, after, hpieces, -, hpair⟩ := parse_eq_parameter_iff.mp h
  have hmem : t.toList ∈ pieces (parameterPart s.toList) := by
    rw [hpieces]
    exact List.mem_append_right before List.mem_cons_self
  exact ⟨isSection_of_mem_pieces (isSection_parameterPart s.toList) hmem,
    isTrimmed_of_mem_pieces hmem, hpair⟩

theorem parse_eq_header_iff_forall_ne_ok (ht : IsSection t.toList) :
    parse t = .error (.header t) ↔ ∀ m, parse t ≠ .ok m := by
  cases h : parse t with
  | ok m => simp
  | error e =>
    cases e with
    | parameter u => exact absurd h (parse_ne_parameter_of_isSection ht)
    | header u =>
      obtain ⟨rfl, -⟩ := (parse_eq_header_iff_of_isSection ht).mp h
      simp

/-- The result of reading a text again is read again as it is. A rejected parameter of three words
is read as a header without parameters and any other is rejected as a header; every other result
is already the one that is read again. -/
theorem reparse_settles (s : String) :
    reparse (reparse (parse s)) = reparse (parse s) ∧
      match parse s with
      | .error (.parameter t) =>
        (∀ u v w, reparse (parse s) = .ok ⟨some u, v, w, []⟩ ↔ IsWordTriple u v w t) ∧
          (reparse (parse s) = .error (.header t) ↔ ¬ ∃ u v w, IsWordTriple u v w t)
      | r => reparse (parse s) = r := by
  by_cases h : ∃ t, parse s = .error (.parameter t)
  · obtain ⟨t, ht⟩ := h
    obtain ⟨hsection, htrimmed, hpair⟩ := cited_of_parse_eq_parameter ht
    have hok (m : Signature) := parse_eq_ok_iff_isWordTriple (m := m) hsection htrimmed hpair
    have hagain : reparse (.error (.parameter t)) = parse t := rfl
    rw [ht, hagain]
    refine ⟨reparse_parse_eq_self fun u => parse_ne_parameter_of_isSection hsection, ?_, ?_⟩
    · intro u v w
      rw [hok]
      constructor
      · rintro ⟨u', v', w', htriple, hm⟩
        simp only [Signature.mk.injEq, Option.some.injEq, and_true] at hm
        obtain ⟨rfl, rfl, rfl⟩ := hm
        exact htriple
      · exact fun htriple => ⟨u, v, w, htriple, rfl⟩
    · rw [parse_eq_header_iff_forall_ne_ok hsection]
      constructor
      · rintro hnot ⟨u, v, w, htriple⟩
        exact hnot _ ((hok _).mpr ⟨u, v, w, htriple, rfl⟩)
      · intro hnot m hm
        obtain ⟨u, v, w, htriple, -⟩ := (hok m).mp hm
        exact hnot ⟨u, v, w, htriple⟩
  · have hself := reparse_parse_eq_self (not_exists.mp h)
    refine ⟨by rw [hself, hself], ?_⟩
    split
    · rename_i t ht
      exact absurd ⟨t, ht⟩ h
    · exact hself

example : reparse (parse "f(int x, final int y)") = .ok ⟨some "final", "int", "y", []⟩ := by
  decide +kernel

end Signatures
