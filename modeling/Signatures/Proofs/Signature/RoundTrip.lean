import Signatures.Proofs.Signature.Parsing

/-!
# Reading a rendered signature

Whatever a text denotes is well formed, and the written form of a well-formed signature denotes it.
Nothing is escaped in the written form; it is enough that no word of a well-formed signature holds a
character that would divide it, and that blank characters stand only inside parameters.
-/

namespace Signatures

set_option autoImplicit false

variable {s a : List Char} {m : Signature} {p : Parameter} {ps : List Parameter}

theorem isSection_intercalate {sep : List Char} {ws : List (List Char)} (hsep : IsSection sep) :
    IsSection (sep.intercalate ws) ↔ ∀ w ∈ ws, IsSection w := by
  induction ws with
  | nil => simp [IsSection]
  | cons w ws ih =>
    cases ws with
    | nil => simp
    | cons v ws =>
      rw [List.intercalate_cons_cons, isSection_append, isSection_append, ih, List.forall_mem_cons]
      simp [hsep]

theorem HeaderText.isSection {ws : List (List Char)} (hs : HeaderText s ws) (h : IsSection s) :
    ∀ w ∈ ws, IsSection w := by
  obtain ⟨-, k, rfl⟩ := hs
  exact (isSection_intercalate (by decide)).mp (isSection_append.mp h).1

theorem ParameterText.isSection (hs : ParameterText s p) (h : IsSection s) :
    IsSection p.type.toList ∧ IsSection p.name.toList := by
  obtain ⟨-, u, v, -, -, rfl⟩ := hs
  have hrender := (isSection_append.mp (isSection_append.mp h).1).2
  rw [Parameter.render_toList] at hrender
  obtain ⟨htype, hname⟩ := isSection_append.mp hrender
  exact ⟨htype, fun c hc => hname c (List.mem_cons_of_mem _ hc)⟩

theorem ParameterTexts.wellFormed (hs : ParameterTexts a ps) (h : IsSection a) :
    ∀ p ∈ ps, p.Separable ∧ IsSection p.type.toList ∧ IsSection p.name.toList := by
  induction hs with
  | last hs => simpa using ⟨hs.1, hs.isSection h⟩
  | cons hs _ ih =>
    obtain ⟨hfirst, hrest⟩ := isSection_append.mp h
    exact List.forall_mem_cons.mpr ⟨⟨hs.1, hs.isSection hfirst⟩,
      ih fun c hc => hrest c (List.mem_cons_of_mem _ hc)⟩

/-- What a text denotes is well formed. -/
theorem Denotes.wellFormed (h : Denotes s m) : m.WellFormed := by
  obtain ⟨_, _, hdivided, hheader, hps⟩ := h
  obtain ⟨rfl, rfl⟩ := divided_iff.mp hdivided
  constructor
  · intro w hw
    have hw' : w.toList ∈ m.headerWords.map String.toList := List.mem_map_of_mem hw
    exact ⟨hheader.1 _ hw', hheader.isSection (isSection_headerPart s) _ hw'⟩
  · rcases hps with ⟨-, hps⟩ | hps
    · simp [hps]
    · exact hps.wellFormed (isSection_parameterPart s)

theorem parameterTexts_render {u : List Char} (hps : ps ≠ []) (hsep : ∀ p ∈ ps, p.Separable)
    (hu : IsBlank u) :
    ParameterTexts (u ++ [',', ' '].intercalate (ps.map fun p => p.render.toList)) ps := by
  induction ps generalizing u with
  | nil => exact absurd rfl hps
  | cons p ps ih =>
    obtain ⟨hp, hrest⟩ := List.forall_mem_cons.mp hsep
    have htext : ParameterText (u ++ p.render.toList) p :=
      ⟨hp, u, [], hu, by decide, by simp⟩
    cases ps with
    | nil => simpa using ParameterTexts.last htext
    | cons q ps =>
      have hspace : IsBlank [' '] := by decide
      simpa using ParameterTexts.cons htext (ih (by simp) hrest hspace)

theorem render_toList (m : Signature) :
    m.render.toList = [' '].intercalate (m.headerWords.map String.toList) ++
      '(' :: ([',', ' '].intercalate (m.parameters.map fun p => p.render.toList) ++ [')']) := by
  simp [Signature.render, Function.comp_def]

/-- The written form of a well-formed signature denotes it. -/
theorem denotes_render (h : m.WellFormed) : Denotes m.render.toList m := by
  obtain ⟨hwords, hps⟩ := h
  have hheader : IsSection ([' '].intercalate (m.headerWords.map String.toList)) :=
    (isSection_intercalate (by decide)).mpr (List.forall_mem_map.mpr fun w hw => (hwords w hw).2)
  have hparameters :
      IsSection ([',', ' '].intercalate (m.parameters.map fun p => p.render.toList)) := by
    refine (isSection_intercalate (by decide)).mpr (List.forall_mem_map.mpr fun p hp => ?_)
    obtain ⟨-, htype, hname⟩ := hps p hp
    rw [Parameter.render_toList]
    exact isSection_append.mpr ⟨htype, List.forall_mem_cons.mpr ⟨by decide, hname⟩⟩
  have hwords' : HeaderText ([' '].intercalate (m.headerWords.map String.toList))
      (m.headerWords.map String.toList) :=
    ⟨List.forall_mem_map.mpr fun w hw => (hwords w hw).1, 0, by simp⟩
  rw [render_toList]
  refine ⟨_, _, .closed hheader hparameters rfl rfl, hwords', ?_⟩
  by_cases hne : m.parameters = []
  · exact Or.inl ⟨by simp [hne, IsBlank], hne⟩
  · have hblank : IsBlank [] := by decide
    exact Or.inr (parameterTexts_render hne (fun p hp => (hps p hp).1) hblank)

/-- A signature that was read is read again from its written form. -/
theorem parse_render_of_parse {s : String} (h : Signature.parse s = .ok m) :
    Signature.parse m.render = .ok m :=
  parse_of_denotes (denotes_render (denotes_of_parse h).wellFormed)

theorem parse_render_of_parse_loose :
    Signature.parse "x,y\tz \u00a0f  )a\tb c\u00a0d\u2003,\u3000e f( throws" =
        .ok ⟨none, "x,y\tz", "\u00a0f", [⟨"a\tb", "c\u00a0d"⟩, ⟨"e", "f"⟩]⟩ ∧
      Signature.parse "x,y\tz \u00a0f(a\tb c\u00a0d, e f)" =
        .ok ⟨none, "x,y\tz", "\u00a0f", [⟨"a\tb", "c\u00a0d"⟩, ⟨"e", "f"⟩]⟩ :=
  ⟨rfl, parse_render_of_parse
    (s := "x,y\tz \u00a0f  )a\tb c\u00a0d\u2003,\u3000e f( throws") rfl⟩

end Signatures
