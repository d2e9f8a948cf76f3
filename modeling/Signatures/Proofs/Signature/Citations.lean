import Signatures.Proofs.Signature.Reparsing

/-!
# What a rejection cites

Dividing a text never fails, neither at a separator nor at the parentheses. So a rejection is always
for the words of a part that was divided off before, and what it cites holds none of the characters
that ended the part: no parenthesis in a header, and in a parameter no comma either, nor a blank
character at an end.
-/

namespace Signatures

open Reader Signature
set_option autoImplicit false

variable {a x : List Char} {s t : String}

theorem comma_not_mem_of_mem_pieces (hx : x ∈ pieces a) : ',' ∉ x := by
  obtain ⟨y, hy, rfl⟩ := exists_trim_of_mem_pieces hx
  obtain ⟨u, v, -, -, hsplit⟩ := exists_eq_append_trim y
  have hcomma : ',' ∉ y := not_mem_of_mem_splitOn hy
  rw [hsplit] at hcomma
  simp only [List.mem_append, not_or] at hcomma
  exact hcomma.1.2

theorem comma_not_mem_of_parse_eq_parameter (h : parse s = .error (.parameter t)) :
    ',' ∉ t.toList := by
  obtain ⟨before, after, hpieces, -⟩ := parse_eq_parameter_iff.mp h
  apply comma_not_mem_of_mem_pieces (a := parameterPart s.toList)
  rw [hpieces]
  exact List.mem_append_right before List.mem_cons_self

theorem isSection_of_parse_eq_header (h : parse s = .error (.header t)) : IsSection t.toList := by
  obtain ⟨-, ht, -⟩ := parse_eq_header_iff.mp h
  rw [ht]
  exact isSection_headerPart s.toList

/-- The first piece of a text and the rounds behind it leave nothing over. -/
theorem exists_pieces_eq_splitOn (c : Char) (s : List Char) :
    ∃ first rest others, takeTill (· = c) s = some (first, rest) ∧
      Repeats (satisfying (· = c)) (takeTill (· = c)) rest others [] ∧
      s.splitOn c = first :: others := by
  refine ⟨_, _, _, ?_, repeats_splitOn _ (atSeparator_dropWhile c s), splitOn_eq_takeWhile_cons c s⟩
  simp [takeTill_eq]

/-- Every text is divided at a separator, in rounds that end with the text, into the only pieces
without the separator that give the text when they are joined; and every text is divided at its
parentheses. So no rejection is for a text that could not be divided: a cited header has no
parenthesis, and a cited parameter has no parenthesis, no comma and no blank character at an end. -/
theorem rejections_cite_divided_text :
    (∀ (c : Char) (s : List Char), ∃ ws, words c s = some ws ∧
      (∃ first rest others, takeTill (· = c) s = some (first, rest) ∧
        Repeats (satisfying (· = c)) (takeTill (· = c)) rest others [] ∧ ws = first :: others) ∧
      ∀ vs, vs ≠ [] ∧ (∀ w ∈ vs, c ∉ w) ∧ [c].intercalate vs = s ↔ vs = ws) ∧
    (∀ s, ∃ parts, Sections.reader s = some (parts, []) ∧ Sections.ofText? s = some parts) ∧
    ∀ s t : String,
      (parse s = .error (.header t) → IsSection t.toList) ∧
        (parse s = .error (.parameter t) →
          ',' ∉ t.toList ∧ IsSection t.toList ∧ IsTrimmed t.toList) := by
  refine ⟨?_, ?_, ?_⟩
  · intro c s
    refine ⟨s.splitOn c, words_eq_splitOn c s, exists_pieces_eq_splitOn c s, ?_⟩
    intro vs
    constructor
    · rintro ⟨hne, hfree, hjoin⟩
      exact ((splitOn_eq_iff hne).mpr ⟨hfree, hjoin.symm⟩).symm
    · rintro rfl
      exact ⟨List.splitOn_ne_nil c s, fun w => not_mem_of_mem_splitOn, List.intercalate_splitOn c⟩
  · exact fun s => ⟨_, Sections.reader_eq s, Sections.ofText?_eq s⟩
  · intro s t
    refine ⟨isSection_of_parse_eq_header, fun h => ?_⟩
    obtain ⟨hsection, htrimmed, -⟩ := cited_of_parse_eq_parameter h
    exact ⟨comma_not_mem_of_parse_eq_parameter h, hsection, htrimmed⟩

theorem rejections_cite_divided_text_each :
    (parse "a b  c(int x)" = .error (.header "a b  c") ∧ IsSection "a b  c".toList) ∧
      parse "f)int x,\u00a0y\tz ,,(" = .error (.parameter "y\tz") ∧
      ',' ∉ "y\tz".toList ∧ IsSection "y\tz".toList ∧ IsTrimmed "y\tz".toList :=
  have hheader : parse "a b  c(int x)" = .error (.header "a b  c") := rfl
  have hparameter : parse "f)int x,\u00a0y\tz ,,(" = .error (.parameter "y\tz") := rfl
  ⟨⟨hheader, (rejections_cite_divided_text.2.2 _ _).1 hheader⟩, hparameter,
    (rejections_cite_divided_text.2.2 _ _).2 hparameter⟩

end Signatures
