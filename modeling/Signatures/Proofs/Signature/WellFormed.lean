import Signatures.Proofs.Signature.RoundTrip

/-!
# The signatures that are read

The words of a signature that was read are more than non-empty: each is free of the characters that
would divide it where it stands. Commas divide parameters only, and blank characters are taken away
only before a type and behind a name. Nothing else is required, for every such signature is read
from its written form.
-/

namespace Signatures

set_option autoImplicit false

variable {s : List Char} {m : Signature} {p : Parameter}

/-- A text that is not empty and holds none of some characters. -/
def IsFreeOf (cs : List Char) (w : String) : Prop :=
  w ≠ "" ∧ ∀ c ∈ cs, c ∉ w.toList

theorem isSection_iff : IsSection s ↔ '(' ∉ s ∧ ')' ∉ s := by
  constructor
  · intro h
    exact ⟨fun hc => absurd (h '(' hc) (by decide), fun hc => absurd (h ')' hc) (by decide)⟩
  · rintro ⟨hopening, hclosing⟩ c hc
    have hne : c ≠ '(' ∧ c ≠ ')' :=
      ⟨ne_of_mem_of_not_mem hc hopening, ne_of_mem_of_not_mem hc hclosing⟩
    simp [isParenthesis, hne]

theorem isWord_iff {w : String} : IsWord w.toList ↔ w ≠ "" ∧ ' ' ∉ w.toList := by
  rw [IsWord, ne_eq, String.toList_eq_nil_iff]

theorem isFreeOf_header_iff {w : String} :
    IsWord w.toList ∧ IsSection w.toList ↔ IsFreeOf [' ', '(', ')'] w := by
  simp [isWord_iff, isSection_iff, IsFreeOf, and_assoc]

/-- What separates a parameter from others also keeps parentheses out of it. -/
theorem Parameter.separable_iff :
    p.Separable ∧ IsSection p.type.toList ∧ IsSection p.name.toList ↔
      (IsFreeOf [' ', ',', '(', ')'] p.type ∧ IsFreeOf [' ', ',', '(', ')'] p.name) ∧
        (∀ c ∈ p.type.toList.head?, Text.isBlank c = false) ∧
        ∀ c ∈ p.name.toList.getLast?, Text.isBlank c = false := by
  simp only [Parameter.Separable, isWord_iff, isSection_iff, IsFreeOf, List.forall_mem_cons,
    List.not_mem_nil, false_implies, implies_true, and_true]
  tauto

theorem Signature.wellFormed_iff :
    m.WellFormed ↔
      (∀ w ∈ m.headerWords, IsFreeOf [' ', '(', ')'] w) ∧
        ∀ p ∈ m.parameters,
          (IsFreeOf [' ', ',', '(', ')'] p.type ∧ IsFreeOf [' ', ',', '(', ')'] p.name) ∧
            (∀ c ∈ p.type.toList.head?, Text.isBlank c = false) ∧
            ∀ c ∈ p.name.toList.getLast?, Text.isBlank c = false := by
  simp only [Signature.WellFormed, isFreeOf_header_iff, Parameter.separable_iff]

/-- A signature is well formed exactly when it is read from its written form. -/
theorem parse_render_eq_ok_iff_wellFormed : Signature.parse m.render = .ok m ↔ m.WellFormed :=
  ⟨fun h => (denotes_of_parse h).wellFormed, fun h => parse_of_denotes (denotes_render h)⟩

/-- The signatures that are read from some text: the words before the parentheses are free of spaces
and parentheses, and the words of parameters of commas as well, with no blank character where a
parameter begins or ends. -/
theorem exists_parse_eq_ok_iff (m : Signature) :
    (∃ s, Signature.parse s = .ok m) ↔
      (∀ w ∈ m.headerWords, IsFreeOf [' ', '(', ')'] w) ∧
        ∀ p ∈ m.parameters,
          (IsFreeOf [' ', ',', '(', ')'] p.type ∧ IsFreeOf [' ', ',', '(', ')'] p.name) ∧
            (∀ c ∈ p.type.toList.head?, Text.isBlank c = false) ∧
            ∀ c ∈ p.name.toList.getLast?, Text.isBlank c = false := by
  rw [← Signature.wellFormed_iff]
  constructor
  · rintro ⟨s, hs⟩
    exact (denotes_of_parse hs).wellFormed
  · intro h
    exact ⟨m.render, parse_render_eq_ok_iff_wellFormed.mpr h⟩

end Signatures
