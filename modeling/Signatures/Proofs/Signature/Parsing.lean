import Signatures.Proofs.Signature.Headers
import Signatures.Proofs.Signature.Parameters
import Signatures.Proofs.Signature.Sections

/-!
# What is read, and what is rejected

A text is read through its two sections only. It denotes the signature that the grammar gives it; a
text outside the grammar is rejected for its leftmost faulty parameter, and for its header only when
no parameter is at fault.
-/

namespace Signatures

set_option autoImplicit false

variable {s : String} {m : Signature} {e : Rejection}

theorem parse_eq_sections (s : String) :
    Signature.parse s =
      match Parameter.readList (parameterPart s.toList) with
      | .error e => .error e
      | .ok ps =>
        match Header.read (headerPart s.toList) with
        | .error e => .error e
        | .ok h => .ok ⟨h.modifier, h.returnType, h.name, ps⟩ := by
  rw [Signature.parse, Signature.read, Sections.ofText?_eq]
  cases hps : Parameter.readList (parameterPart s.toList) with
  | error e => simp [hps]
  | ok ps => cases hh : Header.read (headerPart s.toList) <;> simp [hps, hh]

theorem parse_eq_ok_sections_iff :
    Signature.parse s = .ok m ↔
      Parameter.readList (parameterPart s.toList) = .ok m.parameters ∧
        HeaderText (headerPart s.toList) (m.headerWords.map String.toList) := by
  obtain ⟨modifier, returnType, name, parameters⟩ := m
  have hheader : Header.read (headerPart s.toList) = .ok ⟨modifier, returnType, name⟩ ↔
      HeaderText (headerPart s.toList)
        ((⟨modifier, returnType, name, parameters⟩ : Signature).headerWords.map String.toList) :=
    Header.read_eq_ok_iff.trans Header.ofText?_eq_some_iff
  rw [parse_eq_sections, ← hheader]
  cases hps : Parameter.readList (parameterPart s.toList) with
  | error e => simp
  | ok ps =>
    cases hh : Header.read (headerPart s.toList) with
    | error e => simp
    | ok h =>
      obtain ⟨modifier', returnType', name'⟩ := h
      simp only [Except.ok.injEq, Signature.mk.injEq, Header.mk.injEq]
      tauto

theorem parse_eq_error_sections_iff :
    Signature.parse s = .error e ↔
      Parameter.readList (parameterPart s.toList) = .error e ∨
        (∃ ps, Parameter.readList (parameterPart s.toList) = .ok ps) ∧
          Header.read (headerPart s.toList) = .error e := by
  rw [parse_eq_sections]
  cases hps : Parameter.readList (parameterPart s.toList) with
  | error d => simp
  | ok ps => cases hh : Header.read (headerPart s.toList) <;> simp

/-- Reading is sound: the grammar gives the text the signature that is read. -/
theorem denotes_of_parse (h : Signature.parse s = .ok m) : Denotes s.toList m := by
  obtain ⟨hps, hheader⟩ := parse_eq_ok_sections_iff.mp h
  exact ⟨_, _, divided_parts s.toList, hheader, Parameter.readList_eq_ok_iff.mp hps⟩

/-- Reading is complete: no text of the grammar is rejected or read as another signature. -/
theorem parse_of_denotes (h : Denotes s.toList m) : Signature.parse s = .ok m := by
  obtain ⟨_, _, hdivided, hheader, hps⟩ := h
  obtain ⟨rfl, rfl⟩ := divided_iff.mp hdivided
  exact parse_eq_ok_sections_iff.mpr ⟨Parameter.readList_eq_ok_iff.mpr hps, hheader⟩

/-- The texts that are read are those of the grammar, each as the signature that it denotes. -/
theorem parse_eq_ok_iff_denotes (s : String) (m : Signature) :
    Signature.parse s = .ok m ↔ Denotes s.toList m :=
  ⟨denotes_of_parse, parse_of_denotes⟩

theorem parse_eq_parameter_iff {t : String} :
    Signature.parse s = .error (.parameter t) ↔
      IsFirstFault (pieces (parameterPart s.toList)) t.toList := by
  simp only [parse_eq_error_sections_iff, Parameter.readList_eq_error_iff,
    Header.read_eq_error_iff, Rejection.parameter.injEq, reduceCtorEq, and_false, or_false]
  constructor
  · rintro ⟨t, ht, rfl⟩
    simpa using ht
  · intro ht
    exact ⟨t.toList, ht, by simp⟩

theorem parse_eq_header_iff {t : String} :
    Signature.parse s = .error (.header t) ↔
      (∀ p ∈ pieces (parameterPart s.toList), IsWordPair p) ∧
        t.toList = headerPart s.toList ∧ ¬ IsHeader (headerPart s.toList) := by
  simp only [parse_eq_error_sections_iff, Parameter.readList_eq_error_iff,
    Header.read_eq_error_iff, Parameter.exists_readList_eq_ok_iff, Rejection.header.injEq,
    reduceCtorEq, and_false, exists_false, false_or]
  rw [String.ext_iff, String.toList_ofList, and_comm (a := ¬ IsHeader _)]

/-- A rejection cites the leftmost faulty parameter or else the whole header. Which parameter it is
depends neither on the header nor on the parameters behind it. -/
theorem rejection_classification (s : String) :
    (∀ t, Signature.parse s = .error (.parameter t) ↔
      IsFirstFault (pieces (parameterPart s.toList)) t.toList) ∧
    (∀ t, Signature.parse s = .error (.header t) ↔
      (∀ p ∈ pieces (parameterPart s.toList), IsWordPair p) ∧
        t.toList = headerPart s.toList ∧ ¬ IsHeader (headerPart s.toList)) ∧
    ∀ (r : String) (before after after' : List (List Char)) (fault : List Char),
      pieces (parameterPart s.toList) = before ++ fault :: after →
      pieces (parameterPart r.toList) = before ++ fault :: after' →
      ¬ IsWordPair fault →
      ∃ t, Signature.parse s = .error (.parameter t) ∧
        Signature.parse r = .error (.parameter t) := by
  refine ⟨fun _ => parse_eq_parameter_iff, fun _ => parse_eq_header_iff, ?_⟩
  intro r before after after' fault hs hr hfault
  have hexists : ∃ p ∈ before ++ [fault], ¬ IsWordPair p := ⟨fault, by simp, hfault⟩
  obtain ⟨t, ht⟩ := exists_isFirstFault hexists
  refine ⟨String.ofList t, parse_eq_parameter_iff.mpr ?_, parse_eq_parameter_iff.mpr ?_⟩
  · rw [hs, String.toList_ofList, List.append_cons]
    exact ht.append after
  · rw [hr, String.toList_ofList, List.append_cons]
    exact ht.append after'

theorem rejection_classification_before_header :
    ¬ IsWordPair ['c'] ∧
      ∃ t, Signature.parse "f(a b,\tc ,,d  e)" = .error (.parameter t) ∧
        Signature.parse "int f)a b,c(" = .error (.parameter t) :=
  ⟨by decide, (rejection_classification "f(a b,\tc ,,d  e)").2.2 "int f)a b,c(" [['a', ' ', 'b']]
    [[], ['d', ' ', ' ', 'e']] [] ['c'] rfl rfl (by decide)⟩

end Signatures
