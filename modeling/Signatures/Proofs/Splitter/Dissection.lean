/-!
# Dissections of a text

A split text consists of its tokens and of the gaps between and around them. Two tokens never touch,
for the gap between them is not empty; the gaps at the two ends may be. A text that is cut at many
places has empty pieces where cuts follow one another: without these pieces the cuts join to gaps,
and what is left is a dissection.
-/

namespace Signatures

set_option autoImplicit false

/-- A text taken apart: the gap in front, and then every token with the gap behind it. Only the
first gap and the last may be empty. -/
structure Dissection (IsGap IsToken : List Char → Prop) where
  front : List Char
  parts : List (List Char × List Char)
  isGap_front : IsGap front
  isGap : ∀ x ∈ parts, IsGap x.2
  isToken : ∀ x ∈ parts, x.1 ≠ [] ∧ IsToken x.1
  apart : ∀ x ∈ parts.dropLast, x.2 ≠ []

namespace Dissection

variable {IsGap IsToken : List Char → Prop}

def text (d : Dissection IsGap IsToken) : String :=
  String.ofList (d.front ++ d.parts.flatMap fun x => x.1 ++ x.2)

def tokens (d : Dissection IsGap IsToken) : List String :=
  d.parts.map fun x => String.ofList x.1

/-- A gap without tokens. -/
def blank (g : List Char) (hg : IsGap g) : Dissection IsGap IsToken :=
  ⟨g, [], hg, by simp, by simp, by simp⟩

/-- A token does not touch what stands behind it if that begins with a gap or has no tokens. -/
def Follows (d : Dissection IsGap IsToken) : Prop :=
  d.front ≠ [] ∨ d.parts = []

/-- A gap and a token are put before a dissection. -/
def addToken (g t : List Char) (d : Dissection IsGap IsToken) (hg : IsGap g)
    (ht : t ≠ [] ∧ IsToken t) (hd : d.Follows) : Dissection IsGap IsToken where
  front := g
  parts := (t, d.front) :: d.parts
  isGap_front := hg
  isGap := List.forall_mem_cons.mpr ⟨d.isGap_front, d.isGap⟩
  isToken := List.forall_mem_cons.mpr ⟨ht, d.isToken⟩
  apart := by
    cases hparts : d.parts with
    | nil => simp
    | cons x xs =>
      have hfront : d.front ≠ [] := by simpa [Follows, hparts] using hd
      rw [List.dropLast_cons_cons, ← hparts]
      exact List.forall_mem_cons.mpr ⟨hfront, d.apart⟩

/-- The gap in front of a dissection gets longer. -/
def addGap (g : List Char) (d : Dissection IsGap IsToken) (hg : IsGap (g ++ d.front)) :
    Dissection IsGap IsToken :=
  { d with front := g ++ d.front, isGap_front := hg }

/-- A dissection is built from its last gap by putting tokens before it. -/
@[elab_as_elim]
theorem induction {motive : Dissection IsGap IsToken → Prop}
    (blank : ∀ g hg, motive (blank g hg))
    (token : ∀ g t d hg ht hd, motive d → motive (addToken g t d hg ht hd))
    (d : Dissection IsGap IsToken) : motive d := by
  obtain ⟨front, parts, hfront, hgap, htoken, hapart⟩ := d
  induction parts generalizing front with
  | nil => exact blank front hfront
  | cons x xs ih =>
    obtain ⟨hx, hxs⟩ := List.forall_mem_cons.mp hgap
    obtain ⟨ht, hts⟩ := List.forall_mem_cons.mp htoken
    obtain ⟨hfollows, hinner⟩ : (x.2 ≠ [] ∨ xs = []) ∧ ∀ y ∈ xs.dropLast, y.2 ≠ [] := by
      cases xs with
      | nil => simp
      | cons y ys =>
        obtain ⟨hbehind, hys⟩ := List.forall_mem_cons.mp hapart
        exact ⟨.inl hbehind, hys⟩
    exact token front x.1 ⟨x.2, xs, hx, hxs, hts, hinner⟩ hfront ht hfollows (ih ..)

variable (g t : List Char) (d : Dissection IsGap IsToken)

theorem follows_blank (hg : IsGap g) : (blank g hg : Dissection IsGap IsToken).Follows :=
  .inr rfl

theorem follows_addGap (hg : IsGap (g ++ d.front)) (hne : g ≠ []) : (d.addGap g hg).Follows :=
  .inl (List.append_ne_nil_of_left_ne_nil hne d.front)

@[simp] theorem text_blank (hg : IsGap g) :
    (blank g hg : Dissection IsGap IsToken).text = String.ofList g := by
  simp [blank, text]

@[simp] theorem tokens_blank (hg : IsGap g) :
    (blank g hg : Dissection IsGap IsToken).tokens = [] := rfl

@[simp] theorem text_addToken (hg : IsGap g) (ht : t ≠ [] ∧ IsToken t) (hd : d.Follows) :
    (addToken g t d hg ht hd).text = String.ofList g ++ (String.ofList t ++ d.text) := by
  simp [addToken, text]

@[simp] theorem tokens_addToken (hg : IsGap g) (ht : t ≠ [] ∧ IsToken t) (hd : d.Follows) :
    (addToken g t d hg ht hd).tokens = String.ofList t :: d.tokens := rfl

@[simp] theorem text_addGap (hg : IsGap (g ++ d.front)) :
    (d.addGap g hg).text = String.ofList g ++ d.text := by
  simp [addGap, text]

@[simp] theorem tokens_addGap (hg : IsGap (g ++ d.front)) : (d.addGap g hg).tokens = d.tokens := rfl

end Dissection

/-- `Cuts IsCut s ts` says that the text `s` is cut into the pieces `ts`, which may be empty. -/
inductive Cuts (IsCut : List Char → Prop) : List Char → List (List Char) → Prop
  | last (t : List Char) : Cuts IsCut t [t]
  | cons {t d s : List Char} {ts : List (List Char)} :
      IsCut d → Cuts IsCut s ts → Cuts IsCut (t ++ d ++ s) (t :: ts)

theorem Cuts.add_front {IsCut : List Char → Prop} {s t : List Char} {ts : List (List Char)}
    (h : Cuts IsCut s (t :: ts)) (u : List Char) : Cuts IsCut (u ++ s) ((u ++ t) :: ts) := by
  cases h with
  | last => exact .last (u ++ s)
  | @cons _ d s _ hd hs =>
    have hcons := Cuts.cons (t := u ++ t) hd hs
    rwa [List.append_assoc u, List.append_assoc u] at hcons

/-- The pieces that are not empty are the tokens of a dissection. -/
theorem Cuts.exists_dissection {IsCut IsGap IsToken : List Char → Prop} {s : List Char}
    {ts : List (List Char)} (h : Cuts IsCut s ts) (hnil : IsGap [])
    (hcut : ∀ d, IsCut d → d ≠ [] ∧ ∀ g, IsGap g → IsGap (d ++ g)) (hts : ∀ t ∈ ts, IsToken t) :
    ∃ d : Dissection IsGap IsToken, d.text = String.ofList s ∧
      d.tokens = (ts.filter (· ≠ [])).map String.ofList := by
  induction h with
  | last t =>
    by_cases ht : t = []
    · exact ⟨.blank [] hnil, by simp [ht], by simp [ht]⟩
    · exact ⟨.addToken [] t (.blank [] hnil) hnil ⟨ht, hts t (by simp)⟩
        (Dissection.follows_blank ..), by simp, by simp [ht]⟩
  | @cons t c s ts hc hs ih =>
    obtain ⟨ht, hts⟩ := List.forall_mem_cons.mp hts
    obtain ⟨d, htext, htokens⟩ := ih hts
    obtain ⟨hne, hgap⟩ := hcut c hc
    have hg := hgap d.front d.isGap_front
    by_cases hempty : t = []
    · exact ⟨d.addGap c hg, by simp [htext, hempty], by simp [htokens, hempty]⟩
    · exact ⟨.addToken [] t (d.addGap c hg) hnil ⟨hempty, ht⟩
        (d.follows_addGap c hg hne), by simp [htext], by simp [htokens, hempty]⟩

end Signatures
