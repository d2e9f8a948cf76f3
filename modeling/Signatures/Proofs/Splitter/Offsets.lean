import Signatures.Splitter.Scan

/-!
# Byte offsets of a scan

A cursor stands in its text when both of its offsets are ends of whole characters: the open token
and the rest of the text are then lists of characters. Every part that the scan takes exists at such
a cursor, and the scan moves on to another one. A delimiter is found by its bytes, but what it takes
away from the rest are whole characters too.
-/

namespace Signatures.Scan

open String
set_option autoImplicit false

variable {source a b d : String} {ds : List String} {token rest : List Char} {c : Cursor}

theorem exists_pos? (h : source = a ++ b) :
    ∃ p, source.pos? ⟨a.utf8ByteSize⟩ = some p ∧ p.Splits a b := by
  subst h
  refine ⟨_, ?_, Pos.splits_append_rawEndPos⟩
  have hvalid : a.rawEndPos.isValidForSlice (a ++ b).toSlice = true := by
    rw [Pos.Raw.isValidForSlice_eq_true_iff]
    exact (Pos.Raw.isValid_rawEndPos.append_right b).toSlice
  change (Slice.pos? _ a.rawEndPos).map _ = _
  rw [Slice.pos?, dif_pos hvalid]
  rfl

/-- A part between two ends of whole characters is never refused. -/
theorem exists_slice (h : source = a ++ b ++ d) :
    ∃ part, slice source a.utf8ByteSize (a ++ b).utf8ByteSize = .ok part ∧ part.copy = b := by
  obtain ⟨p, hp, hpsplits⟩ := exists_pos? (h.trans (String.append_assoc ..))
  obtain ⟨q, hq, hqsplits⟩ := exists_pos? h
  obtain ⟨hle, hcopy⟩ := copy_slice_eq_iff_splits.mpr ⟨a, d, hpsplits, hqsplits⟩
  refine ⟨source.slice p q hle, ?_, hcopy⟩
  rw [slice, hp, hq]
  simp [hle]

/-- The cursor `c` stands in the text behind the open token and before the rest. -/
def Stands (source : String) (token rest : List Char) (c : Cursor) : Prop :=
  ∃ before : String, source = before ++ String.ofList token ++ String.ofList rest ∧
    c.start = before.utf8ByteSize ∧ c.position = (before ++ String.ofList token).utf8ByteSize

/-- The first of the delimiters with which a text begins. -/
def firstAt? (ds : List String) (rest : List Char) : Option String :=
  ds.find? fun d => d.toList.isPrefixOf rest

theorem mem_of_firstAt? (h : firstAt? ds rest = some d) : d ∈ ds ∧ d.toList <+: rest := by
  have hprefix : d.toList.isPrefixOf rest = true :=
    List.find?_some (p := fun d : String => d.toList.isPrefixOf rest) h
  exact ⟨List.mem_of_find?_eq_some h, List.isPrefixOf_iff_prefix.mp hprefix⟩

theorem firstAt?_eq_none_iff : firstAt? ds rest = none ↔ ∀ d ∈ ds, ¬ d.toList <+: rest := by
  simp [firstAt?, ← List.isPrefixOf_iff_prefix]

theorem stands_initial (source : String) : Stands source [] source.toList .initial :=
  ⟨"", by simp, by simp [Cursor.initial], by simp [Cursor.initial]⟩

theorem Stands.exists_token (h : Stands source token rest c) :
    ∃ part, slice source c.start c.position = .ok part ∧ part.copy = String.ofList token := by
  obtain ⟨before, hsource, hstart, hposition⟩ := h
  rw [hstart, hposition]
  exact exists_slice hsource

theorem Stands.exists_rest (h : Stands source token rest c) :
    ∃ part, slice source c.position source.utf8ByteSize = .ok part ∧
      part.copy = String.ofList rest := by
  obtain ⟨before, hsource, -, hposition⟩ := h
  have hsource' : source = (before ++ String.ofList token) ++ String.ofList rest ++ "" := by
    rw [hsource, String.append_empty]
  rw [hposition, show source.utf8ByteSize =
    ((before ++ String.ofList token) ++ String.ofList rest).utf8ByteSize by rw [← hsource]]
  exact exists_slice hsource'

theorem Stands.delimiter (h : Stands source token rest c) (hd : d.toList <+: rest)
    (closed : List String) :
    Stands source [] (rest.drop d.toList.length)
      ⟨c.position + d.utf8ByteSize, c.position + d.utf8ByteSize, closed⟩ := by
  obtain ⟨before, hsource, -, hposition⟩ := h
  obtain ⟨rest', rfl⟩ := hd
  refine ⟨before ++ String.ofList token ++ d, ?_, ?_, ?_⟩
  · simp [hsource, String.append_assoc]
  · simp [hposition]
  · simp [hposition]

theorem Stands.character {x : Char} (h : Stands source token (x :: rest) c) :
    Stands source (token ++ [x]) rest { c with position := c.position + x.utf8Size } := by
  obtain ⟨before, hsource, hstart, hposition⟩ := h
  refine ⟨before, ?_, hstart, ?_⟩
  · rw [hsource, ← String.toList_inj]
    simp
  · simp [hposition, Nat.add_assoc]

/-- What a move does, in terms of characters. -/
theorem Stands.step_eq (h : Stands source token rest c) :
    step source ds c = .ok (
      match rest with
      | [] => none
      | x :: _ =>
        match firstAt? ds rest with
        | some d =>
          some ⟨c.position + d.utf8ByteSize, c.position + d.utf8ByteSize,
            String.ofList token :: c.closed⟩
        | none => some { c with position := c.position + x.utf8Size }) := by
  obtain ⟨part, hpart, hrest⟩ := h.exists_rest
  obtain ⟨open', hopen, htoken⟩ := h.exists_token
  have hfront : part.front? = rest.head? := by
    rw [Slice.front?_eq, hrest, String.toList_ofList]
  have hfirst : (ds.find? fun d => part.startsWith d) = firstAt? ds rest := by
    unfold firstAt?
    congr 1
    funext d
    rw [Bool.eq_iff_iff, Slice.startsWith_string_iff, hrest, String.toList_ofList,
      List.isPrefixOf_iff_prefix]
  rw [step, hpart]
  simp only [bind, Except.bind, hfront, hfirst]
  cases rest with
  | nil => rfl
  | cons x rest =>
    cases hd : firstAt? ds (x :: rest) with
    | none => simp [pure, Except.pure]
    | some d => simp [hopen, htoken, pure, Except.pure]

end Signatures.Scan
