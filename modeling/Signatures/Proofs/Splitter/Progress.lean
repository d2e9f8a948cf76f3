import Signatures.Proofs.Splitter.Modes

/-!
# The scan comes to its end

Wherever a scan comes, its cursor stands at ends of whole characters, so that every part which the
scan takes from there exists. A move passes one character or one prepared delimiter; neither is
empty, so that a text has no more moves than bytes.
-/

namespace Signatures

set_option autoImplicit false

namespace Scan

variable {source : String} {ds : List String} {token rest : List Char} {n : Nat} {c next : Cursor}

/-- A cursor whose offsets are in order, within the text and not inside a character, and the parts
of the text that a scan takes there. -/
structure Safe (source : String) (c : Cursor) : Prop where
  start_le : c.start ≤ c.position
  position_le : c.position ≤ source.utf8ByteSize
  start_isValid : String.Pos.Raw.IsValid source ⟨c.start⟩
  position_isValid : String.Pos.Raw.IsValid source ⟨c.position⟩
  rest_isOk : ∃ part, slice source c.position source.utf8ByteSize = .ok part
  token_isOk : ∃ part, slice source c.start c.position = .ok part
  last_isOk : ∃ part, slice source c.start source.utf8ByteSize = .ok part

/-- A move passes a delimiter that begins at the position, or the character that stands there. -/
def Passes (source : String) (ds : List String) (c next : Cursor) : Prop :=
  ∃ part, slice source c.position source.utf8ByteSize = .ok part ∧
    ((∃ d ∈ ds, part.startsWith d = true ∧ next.position = c.position + d.utf8ByteSize) ∨
      ∃ x, part.front? = some x ∧ next.position = c.position + x.utf8Size)

theorem Stands.exists_step (h : Stands source token rest c) (ds : List String) :
    ∃ move, step source ds c = .ok move :=
  ⟨_, h.step_eq⟩

theorem Stands.exists_last (h : Stands source token rest c) :
    ∃ part, slice source c.start source.utf8ByteSize = .ok part := by
  obtain ⟨before, hsource, hstart, -⟩ := h
  have hsource' : source = before ++ String.ofList (token ++ rest) ++ "" := by
    rw [hsource, String.ofList_append, String.append_empty, String.append_assoc]
  have hsize : source.utf8ByteSize = (before ++ String.ofList (token ++ rest)).utf8ByteSize := by
    rw [← String.append_empty (s := before ++ _), ← hsource']
  obtain ⟨part, hpart, -⟩ := exists_slice hsource'
  exact ⟨part, by rw [hstart, hsize, hpart]⟩

theorem Stands.safe (h : Stands source token rest c) : Safe source c where
  start_le := by
    obtain ⟨before, -, hstart, hposition⟩ := h
    simp [hstart, hposition]
  position_le := by
    obtain ⟨before, hsource, -, hposition⟩ := h
    simp [hsource, hposition]
  start_isValid := by
    obtain ⟨before, hsource, hstart, -⟩ := h
    rw [String.append_assoc] at hsource
    rw [hstart]
    exact String.Pos.Raw.isValid_iff_exists_append.mpr ⟨before, _, hsource, rfl⟩
  position_isValid := by
    obtain ⟨before, hsource, -, hposition⟩ := h
    rw [hposition]
    exact String.Pos.Raw.isValid_iff_exists_append.mpr ⟨_, String.ofList rest, hsource, rfl⟩
  rest_isOk := by
    obtain ⟨part, hpart, -⟩ := h.exists_rest
    exact ⟨part, hpart⟩
  token_isOk := by
    obtain ⟨part, hpart, -⟩ := h.exists_token
    exact ⟨part, hpart⟩
  last_isOk := h.exists_last

/-- A move leads from a cursor that stands in the text to another one. -/
theorem Stands.move (h : Stands source token rest c) (hstep : step source ds c = .ok (some next)) :
    (∃ token' rest', Stands source token' rest' next) ∧ Passes source ds c next := by
  obtain ⟨part, hpart, hcopy⟩ := h.exists_rest
  rw [h.step_eq] at hstep
  cases rest with
  | nil => simp at hstep
  | cons x rest =>
    cases hfirst : firstAt? ds (x :: rest) with
    | none =>
      simp only [hfirst, Except.ok.injEq, Option.some.injEq] at hstep
      subst hstep
      refine ⟨⟨_, _, h.character⟩, part, hpart, .inr ⟨x, ?_, rfl⟩⟩
      rw [String.Slice.front?_eq, hcopy, String.toList_ofList]
      rfl
    | some d =>
      simp only [hfirst, Except.ok.injEq, Option.some.injEq] at hstep
      subst hstep
      obtain ⟨hd, hprefix⟩ := mem_of_firstAt? hfirst
      refine ⟨⟨_, _, h.delimiter hprefix _⟩, part, hpart, .inl ⟨d, hd, ?_, rfl⟩⟩
      rwa [String.Slice.startsWith_string_iff, hcopy, String.toList_ofList]

theorem Stands.position_eq_of_step (h : Stands source token rest c)
    (hstep : step source ds c = .ok none) : c.position = source.utf8ByteSize := by
  rw [h.step_eq] at hstep
  cases rest with
  | nil => exact h.position_eq
  | cons x rest => cases hfirst : firstAt? ds (x :: rest) <;> simp [hfirst] at hstep

theorem Reaches.exists_stands (h : Reaches source ds n c) :
    ∃ token rest, Stands source token rest c := by
  induction h with
  | initial => exact ⟨_, _, stands_initial source⟩
  | step _ hstep ih =>
    obtain ⟨token, rest, hstands⟩ := ih
    exact (hstands.move hstep).1

theorem Passes.lt (h : Passes source (Splitter.prepared ds) c next) :
    c.position < next.position := by
  obtain ⟨part, -, ⟨d, hd, -, hnext⟩ | ⟨x, -, hnext⟩⟩ := h
  · have hne := (Splitter.mem_prepared.mp hd).2
    have hsize := mt String.utf8ByteSize_eq_zero_iff.mp hne
    omega
  · have hsize := x.utf8Size_pos
    omega

theorem Reaches.le_position (h : Reaches source (Splitter.prepared ds) n c) : n ≤ c.position := by
  induction h with
  | initial => exact Nat.zero_le _
  | step h hstep ih =>
    obtain ⟨token, rest, hstands⟩ := h.exists_stands
    have hlt := (hstands.move hstep).2.lt
    omega

theorem Reaches.moves_le (h : Reaches source (Splitter.prepared ds) n c) :
    n ≤ source.utf8ByteSize := by
  obtain ⟨token, rest, hstands⟩ := h.exists_stands
  exact Nat.le_trans h.le_position hstands.safe.position_le

/-- From every place to which it comes a scan goes on until it has no move. -/
theorem Reaches.exists_end (left : Nat) (h : Reaches source (Splitter.prepared ds) n c)
    (hleft : source.utf8ByteSize < n + left) :
    ∃ m last, Reaches source (Splitter.prepared ds) m last ∧
      Scan.step source (Splitter.prepared ds) last = .ok none := by
  induction left generalizing n c with
  | zero => exact absurd h.moves_le (Nat.not_le_of_lt hleft)
  | succ left ih =>
    obtain ⟨token, rest, hstands⟩ := h.exists_stands
    obtain ⟨move, hstep⟩ := hstands.exists_step (Splitter.prepared ds)
    cases move with
    | none => exact ⟨n, c, h, hstep⟩
    | some next => exact ih (.step h hstep) (by omega)

end Scan

open Scan Splitter

/-- No scan of a splitter is stopped. Every place to which it comes is safe and is either the end of
the text or left by a move that passes a character or a delimiter; no scan makes more moves than its
text has bytes. Its tokens are those of the leftmost longest matches. -/
theorem scan_prepared_safe (source : String) (ds : List String) :
    (∀ n c, Reaches source (prepared ds) n c →
      Safe source c ∧ n ≤ source.utf8ByteSize ∧
        (step source (prepared ds) c = .ok none ∧ c.position = source.utf8ByteSize ∨
          ∃ next, step source (prepared ds) c = .ok (some next) ∧ c.position < next.position ∧
            Passes source (prepared ds) c next)) ∧
      (∃ n c, Reaches source (prepared ds) n c ∧ step source (prepared ds) c = .ok none) ∧
      run source (prepared ds) (source.utf8ByteSize + 1) .initial =
        .ok (LeftmostLongest.tokens source ds) ∧
      (ofDelimiters .delimiters ds).split source = LeftmostLongest.tokens source ds := by
  refine ⟨?_, ?_, run_prepared source ds, split_delimiters_eq_cut source ds⟩
  · intro n c h
    obtain ⟨token, rest, hstands⟩ := h.exists_stands
    obtain ⟨move, hstep⟩ := hstands.exists_step (prepared ds)
    refine ⟨hstands.safe, h.moves_le, ?_⟩
    cases move with
    | none => exact .inl ⟨hstep, hstands.position_eq_of_step hstep⟩
    | some next =>
      have hpasses := (hstands.move hstep).2
      exact .inr ⟨next, hstep, hpasses.lt, hpasses⟩
  · exact Reaches.exists_end (source.utf8ByteSize + 1) .initial (by omega)

theorem scan_prepared_safe_multibyte :
    Reaches "é→ü" (prepared ["→", "", "→"]) 1 ⟨0, 2, []⟩ ∧ Safe "é→ü" ⟨0, 2, []⟩ ∧
      1 ≤ "é→ü".utf8ByteSize ∧
        (step "é→ü" (prepared ["→", "", "→"]) ⟨0, 2, []⟩ = .ok none ∧ 2 = "é→ü".utf8ByteSize ∨
          ∃ next, step "é→ü" (prepared ["→", "", "→"]) ⟨0, 2, []⟩ = .ok (some next) ∧
            2 < next.position ∧ Passes "é→ü" (prepared ["→", "", "→"]) ⟨0, 2, []⟩ next) :=
  have hstep : step "é→ü" (prepared ["→", "", "→"]) .initial = .ok (some ⟨0, 2, []⟩) :=
    (stands_initial "é→ü").step_eq.trans rfl
  have h : Reaches "é→ü" (prepared ["→", "", "→"]) 1 ⟨0, 2, []⟩ := .step .initial hstep
  ⟨h, (scan_prepared_safe "é→ü" ["→", "", "→"]).1 1 ⟨0, 2, []⟩ h⟩

end Signatures
