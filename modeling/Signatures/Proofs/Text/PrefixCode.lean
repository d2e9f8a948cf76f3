import Mathlib.Data.List.Infix

/-!
# Texts that can be told from their front

A family of texts is a prefix code when no text of it begins another, so that a text is recognized
at the front of whatever it stands in. Words of a prefix code may follow one another without marks
between them, provided that what stands behind the last is not taken for one more.
-/

namespace Signatures.Text

set_option autoImplicit false

variable {α : Type} {s t : List Char} {a b : Char}

/-- Texts that differ at a place that both have. Neither begins the other. -/
def Diverge (s t : List Char) : Prop :=
  ¬ s <+: t ∧ ¬ t <+: s

instance : Decidable (Diverge s t) :=
  inferInstanceAs (Decidable (_ ∧ _))

theorem Diverge.append_ne (h : Diverge s t) (u v : List Char) : s ++ u ≠ t ++ v := by
  intro heq
  have ht : t <+: s ++ u := heq ▸ List.prefix_append t v
  rcases List.prefix_or_prefix_of_prefix (List.prefix_append s u) ht with hst | hts
  · exact h.1 hst
  · exact h.2 hts

theorem Diverge.symm (h : Diverge s t) : Diverge t s :=
  And.symm h

theorem diverge_cons (h : a ≠ b) (s t : List Char) : Diverge (a :: s) (b :: t) := by
  constructor
  · exact fun hprefix => h (List.cons_prefix_cons.mp hprefix).1
  · exact fun hprefix => h (List.cons_prefix_cons.mp hprefix).1.symm

/-- What follows a text does not matter for where it differs from another. -/
theorem Diverge.append (h : Diverge s t) (w : List Char) : Diverge s (t ++ w) := by
  constructor
  · rintro ⟨v, hv⟩
    exact h.append_ne v w hv
  · rintro ⟨v, hv⟩
    exact h.2 ⟨w ++ v, by rw [← hv, List.append_assoc]⟩

theorem Diverge.append_left (h : Diverge s t) (w : List Char) : Diverge (w ++ s) (w ++ t) := by
  simpa [Diverge, List.prefix_append_right_inj] using h

/-- Whatever follows them, the texts of `a` and `b` are the same only if `a` and `b` are. -/
def Told (f : α → List Char) (a b : α) : Prop :=
  ∀ u v, f a ++ u = f b ++ v → a = b ∧ u = v

section Pairs

variable {f : α → List Char} {a b : α}

theorem Told.refl (f : α → List Char) (a : α) : Told f a a := by
  intro u v h
  exact ⟨rfl, List.append_cancel_left h⟩

theorem Diverge.told (h : Diverge (f a) (f b)) : Told f a b := by
  intro u v heq
  exact absurd heq (h.append_ne u v)

theorem Told.map {β : Type} {f : β → List Char} (g : α → β) (h : Told (fun a => f (g a)) a b) :
    Told f (g a) (g b) := by
  intro u v heq
  obtain ⟨hab, huv⟩ := h u v heq
  exact ⟨congrArg g hab, huv⟩

theorem Told.append_left (h : Told f a b) (w : List Char) : Told (fun a => w ++ f a) a b := by
  intro u v heq
  simp only [List.append_assoc, List.append_cancel_left_eq] at heq
  exact h u v heq

theorem Told.append_right (h : Told f a b) (w : List Char) : Told (fun a => f a ++ w) a b := by
  intro u v heq
  simp only [List.append_assoc] at heq
  obtain ⟨hab, hw⟩ := h _ _ heq
  exact ⟨hab, List.append_cancel_left hw⟩

end Pairs

/-- Every text of the family can be told from its front. -/
def IsPrefixCode (f : α → List Char) : Prop :=
  ∀ a b, Told f a b

theorem IsPrefixCode.injective {f : α → List Char} (h : IsPrefixCode f) : Function.Injective f := by
  intro a b hab
  exact (h a b [] [] (by simpa using hab)).1

section Sequences

variable {f : α → List Char} {stop u v : List Char} {as bs : List α}

/-- Two sequences that are written alike up to a stop are the same if their texts at the same place
can be told from one another, and the stop from every text. -/
theorem Told.flatMap_append (hpairs : ∀ x ∈ as.zip bs, Told f x.1 x.2)
    (has : ∀ a ∈ as, Diverge stop (f a)) (hbs : ∀ b ∈ bs, Diverge stop (f b)) :
    Told (fun as => as.flatMap f ++ stop) as bs := by
  have hempty : ∀ {c cs}, Diverge stop (f c) →
      Diverge ([].flatMap f ++ stop) ((c :: cs).flatMap f ++ stop) := by
    intro c cs hc
    rw [List.flatMap_nil, List.nil_append, List.flatMap_cons, List.append_assoc]
    exact hc.append _
  induction as generalizing bs with
  | nil =>
    cases bs with
    | nil => exact Told.refl _ _
    | cons b bs => exact Diverge.told (hempty (hbs b List.mem_cons_self))
  | cons a as ih =>
    obtain ⟨ha, htail⟩ := List.forall_mem_cons.mp has
    cases bs with
    | nil => exact Diverge.told (hempty ha).symm
    | cons b bs =>
      obtain ⟨hfirst, hrest⟩ : Told f a b ∧ ∀ x ∈ as.zip bs, Told f x.1 x.2 :=
        List.forall_mem_cons.mp hpairs
      intro u v h
      simp only [List.flatMap_cons, List.append_assoc] at h
      obtain ⟨hab, hbehind⟩ := hfirst _ _ h
      rw [← List.append_assoc, ← List.append_assoc] at hbehind
      obtain ⟨hasbs, huv⟩ := ih hrest htail (List.forall_mem_cons.mp hbs).2 u v hbehind
      exact ⟨by rw [hab, hasbs], huv⟩

theorem IsPrefixCode.flatMap_append (hf : IsPrefixCode f) (hstop : ∀ a, Diverge stop (f a)) :
    IsPrefixCode fun as : List α => as.flatMap f ++ stop :=
  fun _ _ => Told.flatMap_append (fun x _ => hf x.1 x.2) (fun a _ => hstop a) fun b _ => hstop b

/-- The first occurrence of a character ends a text. -/
theorem eq_of_append_cons_eq (hs : a ∉ s) (ht : a ∉ t) (h : s ++ a :: u = t ++ a :: v) :
    s = t ∧ u = v := by
  have hsingle : ∀ b c : Char, Told (fun b => [b]) b c := by simp [Told]
  have hstop : ∀ {s : List Char}, a ∉ s → ∀ b ∈ s, Diverge [a] [b] := by
    intro s hs b hb
    apply diverge_cons
    rintro rfl
    exact hs hb
  apply Told.flatMap_append (fun x _ => hsingle x.1 x.2) (hstop hs) (hstop ht) u v
  simpa using h

end Sequences

end Signatures.Text
