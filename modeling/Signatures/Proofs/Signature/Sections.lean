import Mathlib.Data.List.TakeWhile
import Signatures.Proofs.Text.Words
import Signatures.Signature.Grammar

/-!
# The two sections of a text

Every text is divided in exactly one way: reading takes the header up to the first parenthesis and
the parameter list from there to the second, and the grammar admits nothing else.
-/

namespace Signatures

set_option autoImplicit false

variable {s h a r : List Char} {p : Char}

instance : DecidablePred IsSection :=
  fun s => List.decidableBAll (isParenthesis · = false) s

/-- The text before the first parenthesis. -/
def headerPart (s : List Char) : List Char :=
  s.takeWhile fun c => !isParenthesis c

/-- The text between the first parenthesis and the second. -/
def parameterPart (s : List Char) : List Char :=
  headerPart ((s.dropWhile fun c => !isParenthesis c).drop 1)

theorem Sections.reader_eq (s : List Char) :
    Sections.reader s = some (⟨headerPart s, parameterPart s⟩, []) := by
  have hstop := List.head?_dropWhile_not (fun c => !isParenthesis c) s
  cases hrest : s.dropWhile fun c => !isParenthesis c with
  | nil =>
    simp [Sections.reader, bind, pure, takeTill_eq, hrest, Reader.optional, Reader.satisfying,
      Reader.remainder, parameterPart, headerPart]
  | cons p r =>
    have hp : isParenthesis p = true := by simpa [hrest] using hstop
    simp [Sections.reader, bind, pure, takeTill_eq, hrest, hp, Reader.optional, Reader.satisfying,
      Reader.remainder, parameterPart, headerPart]

theorem Sections.ofText?_eq (s : List Char) :
    Sections.ofText? s = some ⟨headerPart s, parameterPart s⟩ := by
  rw [Sections.ofText?, Sections.reader_eq, Option.map_some]

theorem isSection_headerPart (s : List Char) : IsSection (headerPart s) := by
  intro c hc
  simpa using List.mem_takeWhile_imp hc

theorem isSection_parameterPart (s : List Char) : IsSection (parameterPart s) :=
  isSection_headerPart _

theorem isSection_append : IsSection (s ++ r) ↔ IsSection s ∧ IsSection r :=
  List.forall_mem_append

theorem headerPart_of_isSection (hh : IsSection h) : headerPart h = h :=
  List.takeWhile_eq_self_iff.mpr fun c hc => by simp [hh c hc]

theorem parameterPart_of_isSection (hh : IsSection h) : parameterPart h = [] := by
  have hrest : (h.dropWhile fun c => !isParenthesis c) = [] :=
    List.dropWhile_eq_nil_iff.mpr fun c hc => by simp [hh c hc]
  rw [parameterPart, hrest]
  rfl

theorem headerPart_append_cons (hh : IsSection h) (hp : isParenthesis p = true) :
    headerPart (h ++ p :: r) = h := by
  rw [headerPart, List.takeWhile_append_of_pos fun c hc => by simp [hh c hc]]
  simp [hp]

theorem parameterPart_append_cons (hh : IsSection h) (hp : isParenthesis p = true) :
    parameterPart (h ++ p :: r) = headerPart r := by
  rw [parameterPart, List.dropWhile_append_of_pos fun c hc => by simp [hh c hc]]
  simp [hp]

theorem isSection_or_parenthesis (s : List Char) :
    IsSection s ∨ ∃ h p r, IsSection h ∧ isParenthesis p = true ∧ s = h ++ p :: r := by
  induction s with
  | nil => exact Or.inl (by simp [IsSection])
  | cons c s ih =>
    by_cases hc : isParenthesis c = true
    · exact Or.inr ⟨[], c, s, by simp [IsSection], hc, rfl⟩
    · have hsingle : IsSection [c] := by simpa [IsSection] using hc
      rcases ih with hs | ⟨h, p, r, hh, hp, rfl⟩
      · exact Or.inl (isSection_append.mpr ⟨hsingle, hs⟩)
      · exact Or.inr ⟨c :: h, p, r, isSection_append.mpr ⟨hsingle, hh⟩, hp, rfl⟩

theorem divided_parts (s : List Char) : Divided s (headerPart s) (parameterPart s) := by
  rcases isSection_or_parenthesis s with hs | ⟨h, p, r, hh, hp, rfl⟩
  · rw [headerPart_of_isSection hs, parameterPart_of_isSection hs]
    exact .header hs
  · rw [headerPart_append_cons hh hp, parameterPart_append_cons hh hp]
    rcases isSection_or_parenthesis r with hr | ⟨a, q, t, ha, hq, rfl⟩
    · rw [headerPart_of_isSection hr]
      exact .opened hh hr hp
    · rw [headerPart_append_cons ha hq]
      exact .closed hh ha hp hq

/-- The division of a text is unique, and it is the one that is read. -/
theorem divided_iff : Divided s h a ↔ h = headerPart s ∧ a = parameterPart s := by
  constructor
  · intro hd
    cases hd with
    | header hh => exact ⟨(headerPart_of_isSection hh).symm, (parameterPart_of_isSection hh).symm⟩
    | opened hh ha hp =>
      rw [headerPart_append_cons hh hp, parameterPart_append_cons hh hp, headerPart_of_isSection ha]
      exact ⟨rfl, rfl⟩
    | closed hh ha hp hq =>
      rw [headerPart_append_cons hh hp, parameterPart_append_cons hh hp,
        headerPart_append_cons ha hq]
      exact ⟨rfl, rfl⟩
  · rintro ⟨rfl, rfl⟩
    exact divided_parts s

end Signatures
