import Mathlib.Data.List.Forall2
import Signatures.Proofs.Text.Trimming
import Signatures.Signature.Reading

/-!
# Reading parameters

A piece of a parameter list is a parameter exactly when it is two words with one space between them.
The list is read when all of its pieces are parameters; otherwise the leftmost piece that is none is
cited, whatever stands behind it.
-/

namespace Signatures

open Text
set_option autoImplicit false

variable {s a : List Char} {p : Parameter} {ps : List Parameter}

/-- Two words with one space between them. -/
def IsWordPair (s : List Char) : Prop :=
  ∃ v w, IsWord v ∧ IsWord w ∧ s = v ++ ' ' :: w

theorem Parameter.render_toList (p : Parameter) :
    p.render.toList = p.type.toList ++ ' ' :: p.name.toList := by
  simp [Parameter.render]

theorem splitOn_eq_pair_iff {v w : List Char} :
    s.splitOn ' ' = [v, w] ↔ ' ' ∉ v ∧ ' ' ∉ w ∧ s = v ++ ' ' :: w := by
  rw [splitOn_eq_iff (by simp)]
  simp [and_assoc]

theorem Parameter.ofText?_eq_some_iff :
    Parameter.ofText? s = some p ↔
      IsWord p.type.toList ∧ IsWord p.name.toList ∧ s = p.render.toList := by
  obtain ⟨type, name⟩ := p
  rw [Parameter.ofText?, words_eq_splitOn, Parameter.render_toList]
  constructor
  · intro h
    split at h
    · rename_i v w hvw
      split at h
      · simp at h
      · rename_i hne
        simp only [Option.some.injEq, Parameter.mk.injEq] at h hvw
        obtain ⟨rfl, rfl⟩ := h
        obtain ⟨hv, hw, hs⟩ := splitOn_eq_pair_iff.mp hvw
        simp only [Bool.or_eq_true, List.isEmpty_iff, not_or] at hne
        simpa [IsWord, hv, hw, hne] using hs
    · simp at h
  · rintro ⟨⟨htype, htype'⟩, ⟨hname, hname'⟩, hs⟩
    rw [splitOn_eq_pair_iff.mpr ⟨htype', hname', hs⟩]
    simp [htype, hname]

theorem Parameter.exists_ofText?_iff : (∃ p, Parameter.ofText? s = some p) ↔ IsWordPair s := by
  constructor
  · rintro ⟨p, hp⟩
    obtain ⟨htype, hname, hs⟩ := Parameter.ofText?_eq_some_iff.mp hp
    exact ⟨p.type.toList, p.name.toList, htype, hname, by rw [hs, Parameter.render_toList]⟩
  · rintro ⟨v, w, hv, hw, hs⟩
    refine ⟨⟨String.ofList v, String.ofList w⟩, Parameter.ofText?_eq_some_iff.mpr ?_⟩
    simpa [Parameter.render_toList, hv, hw] using hs

instance : DecidablePred IsWordPair :=
  fun _ => decidable_of_iff _ (Option.isSome_iff_exists.trans Parameter.exists_ofText?_iff)

theorem Parameter.read_eq_ok_iff : Parameter.read s = .ok p ↔ Parameter.ofText? s = some p := by
  rw [Parameter.read]
  cases Parameter.ofText? s <;> simp

theorem Parameter.read_eq_error_iff {e : Rejection} :
    Parameter.read s = .error e ↔ ¬ IsWordPair s ∧ e = .parameter (String.ofList s) := by
  rw [Parameter.read, ← Parameter.exists_ofText?_iff]
  cases Parameter.ofText? s <;> simp [eq_comm]

section Traversal

variable {α β ε : Type} {f : α → Except ε β} {x : α} {xs : List α}

theorem mapM_cons_eq_ok_iff {ys : List β} :
    (x :: xs).mapM f = .ok ys ↔
      ∃ y zs, f x = .ok y ∧ xs.mapM f = .ok zs ∧ ys = y :: zs := by
  rw [List.mapM_cons]
  cases hx : f x with
  | error e => simp [bind, Except.bind]
  | ok y => cases hxs : xs.mapM f <;> simp [bind, Except.bind, pure, Except.pure, eq_comm]

theorem mapM_cons_eq_error_iff {e : ε} :
    (x :: xs).mapM f = .error e ↔
      f x = .error e ∨ (∃ y, f x = .ok y) ∧ xs.mapM f = .error e := by
  rw [List.mapM_cons]
  cases hx : f x with
  | error d => simp [bind, Except.bind]
  | ok y => cases hxs : xs.mapM f <;> simp [bind, Except.bind, pure, Except.pure]

theorem mapM_eq_ok_iff {ys : List β} :
    xs.mapM f = .ok ys ↔ List.Forall₂ (f · = .ok ·) xs ys := by
  induction xs generalizing ys with
  | nil => simp [pure, Except.pure, eq_comm]
  | cons x xs ih =>
    rw [mapM_cons_eq_ok_iff, List.forall₂_cons_left_iff]
    simp only [ih]

theorem exists_mapM_eq_ok_iff :
    (∃ ys, xs.mapM f = .ok ys) ↔ ∀ x ∈ xs, ∃ y, f x = .ok y := by
  simp only [mapM_eq_ok_iff]
  induction xs with
  | nil => exact ⟨fun _ => by simp, fun _ => ⟨[], .nil⟩⟩
  | cons x xs ih =>
    rw [List.forall_mem_cons, ← ih]
    constructor
    · rintro ⟨_, hxs⟩
      cases hxs with
      | cons hx hxs => exact ⟨⟨_, hx⟩, _, hxs⟩
    · rintro ⟨⟨y, hx⟩, ys, hxs⟩
      exact ⟨y :: ys, .cons hx hxs⟩

/-- A traversal that fails does so at the leftmost element at which it can. -/
theorem mapM_eq_error_iff {e : ε} :
    xs.mapM f = .error e ↔
      ∃ before x after, xs = before ++ x :: after ∧ (∀ y ∈ before, ∃ b, f y = .ok b) ∧
        f x = .error e := by
  induction xs with
  | nil => simp [pure, Except.pure]
  | cons x xs ih =>
    rw [mapM_cons_eq_error_iff, ih]
    constructor
    · rintro (hx | ⟨hx, before, y, after, rfl, hbefore, hy⟩)
      · exact ⟨[], x, xs, rfl, by simp, hx⟩
      · exact ⟨x :: before, y, after, rfl, List.forall_mem_cons.mpr ⟨hx, hbefore⟩, hy⟩
    · rintro ⟨before, y, after, hxs, hbefore, hy⟩
      cases before with
      | nil =>
        obtain ⟨rfl, -⟩ := List.cons.inj hxs
        exact Or.inl hy
      | cons z before =>
        obtain ⟨rfl, rfl⟩ := List.cons.inj hxs
        obtain ⟨hz, hbefore⟩ := List.forall_mem_cons.mp hbefore
        exact Or.inr ⟨hz, before, y, after, rfl, hbefore, hy⟩

end Traversal

/-- The pieces of a parameter list between its commas, trimmed. A blank list has none. -/
def pieces (a : List Char) : List (List Char) :=
  if trim a = [] then [] else ((trim a).splitOn ',').map trim

/-- The leftmost of some pieces that is not a pair of words. -/
def IsFirstFault (ps : List (List Char)) (t : List Char) : Prop :=
  ∃ before after, ps = before ++ t :: after ∧ (∀ p ∈ before, IsWordPair p) ∧ ¬ IsWordPair t

theorem exists_isFirstFault {ss : List (List Char)} (h : ∃ s ∈ ss, ¬ IsWordPair s) :
    ∃ t, IsFirstFault ss t := by
  induction ss with
  | nil => simp at h
  | cons s ss ih =>
    by_cases hs : IsWordPair s
    · obtain ⟨t, before, after, rfl, hbefore, ht⟩ := ih (by simpa [hs] using h)
      exact ⟨t, s :: before, after, rfl, List.forall_mem_cons.mpr ⟨hs, hbefore⟩, ht⟩
    · exact ⟨s, [], ss, rfl, by simp, hs⟩

theorem IsFirstFault.append {ss : List (List Char)} {t : List Char} (h : IsFirstFault ss t)
    (rest : List (List Char)) : IsFirstFault (ss ++ rest) t := by
  obtain ⟨before, after, rfl, hbefore, ht⟩ := h
  exact ⟨before, after ++ rest, by simp, hbefore, ht⟩

theorem pieces_eq_nil (ha : IsBlank a) : pieces a = [] := by
  rw [pieces, if_pos (trim_eq_nil_iff.mpr ha)]

theorem pieces_eq_map_trim (ha : ¬ IsBlank a) : pieces a = (a.splitOn ',').map trim := by
  rw [pieces, if_neg (trim_eq_nil_iff.not.mpr ha), map_trim_splitOn_trim]

theorem Parameter.readList_eq_mapM (a : List Char) :
    Parameter.readList a = (pieces a).mapM Parameter.read := by
  rw [Parameter.readList, pieces]
  by_cases h : trim a = []
  · simp [h, pure, Except.pure]
  · simp [h, words_eq_splitOn, List.mapM_map, Function.comp_def]

theorem Parameter.readList_eq_error_iff {e : Rejection} :
    Parameter.readList a = .error e ↔
      ∃ t, IsFirstFault (pieces a) t ∧ e = .parameter (String.ofList t) := by
  simp only [Parameter.readList_eq_mapM, mapM_eq_error_iff, Parameter.read_eq_ok_iff,
    Parameter.exists_ofText?_iff, Parameter.read_eq_error_iff, IsFirstFault]
  constructor
  · rintro ⟨before, t, after, hpieces, hbefore, ht, he⟩
    exact ⟨t, ⟨before, after, hpieces, hbefore, ht⟩, he⟩
  · rintro ⟨t, ⟨before, after, hpieces, hbefore, ht⟩, he⟩
    exact ⟨before, t, after, hpieces, hbefore, ht, he⟩

theorem Parameter.exists_readList_eq_ok_iff :
    (∃ ps, Parameter.readList a = .ok ps) ↔ ∀ s ∈ pieces a, IsWordPair s := by
  simp only [Parameter.readList_eq_mapM, exists_mapM_eq_ok_iff, Parameter.read_eq_ok_iff,
    Parameter.exists_ofText?_iff]

theorem Parameter.isTrimmed_render_iff (htype : IsWord p.type.toList)
    (hname : IsWord p.name.toList) :
    IsTrimmed p.render.toList ↔
      (∀ c ∈ p.type.toList.head?, isBlank c = false) ∧
        ∀ c ∈ p.name.toList.getLast?, isBlank c = false := by
  obtain ⟨b, v, hv⟩ := List.exists_cons_of_ne_nil htype.1
  have hlast : (' ' :: p.name.toList).getLast? = p.name.toList.getLast? :=
    List.getLast?_append_of_ne_nil [' '] hname.1
  rw [IsTrimmed, Parameter.render_toList, List.getLast?_append_of_ne_nil _ (by simp), hlast, hv]
  rfl

theorem Parameter.comma_not_mem_render_iff :
    ',' ∉ p.render.toList ↔ ',' ∉ p.type.toList ∧ ',' ∉ p.name.toList := by
  simp [Parameter.render_toList]

/-- Trimming a piece that the grammar admits leaves the parameter that it denotes. -/
theorem parameterText_iff :
    ParameterText s p ↔ ',' ∉ s ∧ Parameter.read (trim s) = .ok p := by
  rw [Parameter.read_eq_ok_iff, Parameter.ofText?_eq_some_iff]
  constructor
  · rintro ⟨⟨htype, hname, hctype, hcname, hends⟩, u, v, hu, hv, rfl⟩
    have hcomma := Parameter.comma_not_mem_render_iff.mpr ⟨hctype, hcname⟩
    have htrimmed := (Parameter.isTrimmed_render_iff htype hname).mpr hends
    refine ⟨?_, htype, hname, trim_append_of_isTrimmed hu hv htrimmed⟩
    simp [hu.comma_not_mem, hv.comma_not_mem, hcomma]
  · rintro ⟨hcomma, htype, hname, hs⟩
    obtain ⟨u, v, hu, hv, hsplit⟩ := exists_eq_append_trim s
    rw [hs] at hsplit
    have hcomma' : ',' ∉ p.render.toList := fun h => hcomma (by simp [hsplit, h])
    obtain ⟨hctype, hcname⟩ := Parameter.comma_not_mem_render_iff.mp hcomma'
    have hends := (Parameter.isTrimmed_render_iff htype hname).mp (hs ▸ isTrimmed_trim s)
    exact ⟨⟨htype, hname, hctype, hcname, hends⟩, u, v, hu, hv, hsplit⟩

theorem parameterTexts_intercalate {ss : List (List Char)}
    (h : List.Forall₂ ParameterText ss ps) (hss : ss ≠ []) :
    ParameterTexts ([','].intercalate ss) ps := by
  induction h with
  | nil => exact absurd rfl hss
  | @cons s p ss ps hs hrest ih =>
    cases hrest with
    | nil => simpa using ParameterTexts.last hs
    | cons hs' hrest => simpa using ParameterTexts.cons hs (ih (by simp))

theorem parameterTexts_iff :
    ParameterTexts a ps ↔ List.Forall₂ ParameterText (a.splitOn ',') ps := by
  constructor
  · intro h
    induction h with
    | last hs =>
      rw [List.splitOn_eq_singleton (parameterText_iff.mp hs).1]
      exact .cons hs .nil
    | cons hs _ ih =>
      rw [List.splitOn_append_cons_self_of_not_mem (parameterText_iff.mp hs).1]
      exact .cons hs ih
  · intro h
    simpa using parameterTexts_intercalate h (List.splitOn_ne_nil ',' a)

theorem ParameterText.not_isBlank (h : ParameterText s p) : ¬ IsBlank s := by
  obtain ⟨⟨htype, -, -, -, hfirst, -⟩, u, v, -, -, rfl⟩ := h
  obtain ⟨c, r, hc⟩ := List.exists_cons_of_ne_nil htype.1
  intro hblank
  have hblank' := hblank c (by simp [Parameter.render_toList, hc])
  simp [hfirst c (by simp [hc])] at hblank'

theorem ParameterTexts.not_isBlank (h : ParameterTexts a ps) : ¬ IsBlank a := by
  cases h with
  | last hs => exact hs.not_isBlank
  | cons hs _ => exact fun hblank => hs.not_isBlank (isBlank_append.mp hblank).1

/-- The list that is read is the list that the grammar admits. -/
theorem Parameter.readList_eq_ok_iff :
    Parameter.readList a = .ok ps ↔ (IsBlank a ∧ ps = []) ∨ ParameterTexts a ps := by
  rw [Parameter.readList_eq_mapM, mapM_eq_ok_iff]
  by_cases ha : IsBlank a
  · have htexts : ¬ ParameterTexts a ps := fun h => h.not_isBlank ha
    simp [pieces_eq_nil ha, ha, htexts]
  · have hfree : ∀ s ∈ a.splitOn ',', ',' ∉ s := fun _ => not_mem_of_mem_splitOn
    have htext : ParameterText = fun s p => ',' ∉ s ∧ Parameter.read (trim s) = .ok p := by
      funext s p
      exact propext parameterText_iff
    rw [pieces_eq_map_trim ha, List.forall₂_map_left_iff, parameterTexts_iff, htext,
      List.forall₂_and_left]
    simp only [ha, false_and, false_or]
    exact ⟨fun h => ⟨hfree, h⟩, And.right⟩

end Signatures
