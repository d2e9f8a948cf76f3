import Mathlib.Data.List.Forall2
import Signatures.Proofs.Text.Quoted
import Signatures.Text.Layout

/-!
# Layouts are unambiguous

Brackets show where a list of parts ends: behind every part either a separator follows or the
closing bracket, and no part begins as the bracket does. If the parts can be told from their front,
so can the brackets with all parts in them, in either style and whatever follows.
-/

namespace Signatures.Text

set_option autoImplicit false

namespace Layout

variable {α : Type} {f : α → Layout} {opening closing margin : List Char} {as bs : List α}

/-- In either style, what is written of a value can be told from its front. -/
def IsCode (f : α → Layout) : Prop :=
  ∀ style, IsPrefixCode fun a => f a style

theorem IsCode.injective (h : IsCode f) : Function.Injective f := by
  intro a b hab
  exact (h .oneLine).injective (congrFun hab .oneLine)

theorem IsCode.render_injective (h : IsCode f) (style : Style) :
    Function.Injective fun a => (f a).render style :=
  fun _ _ hab => (h style).injective (String.ofList_injective hab)

theorem IsCode.told (h : IsCode f) (a b : α) (style : Style) :
    Told (fun p : Layout => p style) (f a) (f b) :=
  (h style a b).map f

theorem isCode_text : IsCode text := by
  intro style s t u v h
  obtain ⟨hst, huv⟩ := Quoted.isPrefixCode_text _ _ u v h
  exact ⟨String.toList_inj.mp hst, huv⟩

theorem isCode_character : IsCode character :=
  fun _ => Quoted.isPrefixCode_character

/-- A bracket that closes a list of parts: it is not taken for what stands before another part. -/
structure Closes (closing margin : List Char) : Prop where
  line : Diverge closing ['\n']
  blank : Diverge closing [' ']
  comma : Diverge (margin ++ closing) [',']

theorem bracketed_oneLine_nil (opening closing margin : List Char) :
    bracketed opening closing margin [] .oneLine =
      opening ++ (margin ++ (margin ++ closing)) := by
  simp [bracketed]

/-- A separator stands before every part but the first. -/
theorem intercalate_oneLine_cons (s : List Char) (ps : List Layout) :
    [',', ' '].intercalate (s :: ps.map (· .oneLine)) =
      s ++ ps.flatMap fun p => [',', ' '] ++ p .oneLine := by
  induction ps generalizing s with
  | nil => simp
  | cons q ps ih =>
    rw [List.map_cons, List.intercalate_cons_cons, ih, List.flatMap_cons]
    simp only [List.append_assoc]

theorem bracketed_oneLine_cons (opening closing margin : List Char) (p : Layout)
    (ps : List Layout) :
    bracketed opening closing margin (p :: ps) .oneLine =
      opening ++ (margin ++ (p .oneLine ++
        (ps.flatMap (fun p => [',', ' '] ++ p .oneLine) ++ (margin ++ closing)))) := by
  simp only [bracketed, List.map_cons, intercalate_oneLine_cons, List.append_assoc]

theorem bracketed_indented_nil (opening closing margin : List Char) (depth : Nat) :
    bracketed opening closing margin [] (.indented depth) = opening ++ closing := rfl

theorem bracketed_indented_cons (opening closing margin : List Char) (p : Layout)
    (ps : List Layout) (depth : Nat) :
    bracketed opening closing margin (p :: ps) (.indented depth) =
      opening ++ (['\n'] ++ ((p :: ps).flatMap (fun p =>
        indentation (depth + 1) ++ (p (.indented (depth + 1)) ++ [',', '\n'])) ++
          (indentation depth ++ closing))) := by
  simp [bracketed]

theorem exists_bracketed_eq_append (opening closing margin : List Char) (ps : List Layout)
    (style : Style) : ∃ rest, bracketed opening closing margin ps style = opening ++ rest := by
  cases ps with
  | nil =>
    cases style with
    | oneLine => exact ⟨_, bracketed_oneLine_nil opening closing margin⟩
    | indented depth => exact ⟨closing, bracketed_indented_nil opening closing margin depth⟩
  | cons p ps =>
    cases style with
    | oneLine => exact ⟨_, bracketed_oneLine_cons opening closing margin p ps⟩
    | indented depth => exact ⟨_, bracketed_indented_cons opening closing margin p ps depth⟩

/-- What begins unlike a name is told from all that is applied to the name. -/
theorem diverge_applied_right {s : List Char} {name : String} (h : Diverge s (name.toList ++ ['(']))
    (p : Layout) (style : Style) : Diverge s (applied name p style) := by
  obtain ⟨rest, hrest⟩ := exists_bracketed_eq_append (name.toList ++ ['(']) [')'] [] [p] style
  rw [Layout.applied, hrest]
  exact h.append rest

theorem diverge_applied {name other : String}
    (h : Diverge (name.toList ++ ['(']) (other.toList ++ ['('])) (p q : Layout) (style : Style) :
    Diverge (applied name p style) (applied other q style) :=
  (diverge_applied_right (diverge_applied_right h q style).symm p style).symm

theorem indentation_succ (depth : Nat) :
    indentation (depth + 1) = indentation depth ++ ([' '] ++ [' ', ' ', ' ']) := by
  simp [indentation, Nat.mul_succ, List.replicate_add]

section Brackets

variable (hcloses : Closes closing margin)
  (hpairs : ∀ style, ∀ x ∈ as.zip bs, Told (fun a => f a style) x.1 x.2)
  (has : ∀ a ∈ as, Diverge (margin ++ closing) (f a .oneLine))
  (hbs : ∀ b ∈ bs, Diverge (margin ++ closing) (f b .oneLine))
include hcloses hpairs

theorem Closes.told_indented (depth : Nat) :
    Told (fun as => bracketed opening closing margin (as.map f) (.indented depth)) as bs := by
  have hempty : ∀ c cs, Diverge (bracketed opening closing margin [] (.indented depth))
      (bracketed opening closing margin (f c :: cs) (.indented depth)) := by
    intro c cs
    rw [bracketed_indented_nil, bracketed_indented_cons]
    exact (hcloses.line.append _).append_left opening
  have hstop : ∀ a, Diverge (indentation depth ++ closing)
      (indentation (depth + 1) ++ (f a (.indented (depth + 1)) ++ [',', '\n'])) := by
    intro a
    rw [indentation_succ, List.append_assoc]
    exact ((hcloses.blank.append _).append _).append_left _
  cases as with
  | nil =>
    cases bs with
    | nil => exact Told.refl _ _
    | cons b bs => exact Diverge.told (hempty b (bs.map f))
  | cons a as =>
    cases bs with
    | nil => exact Diverge.told (hempty a (as.map f)).symm
    | cons b bs =>
      intro u v h
      simp only [List.map_cons, bracketed_indented_cons, List.append_assoc,
        List.append_cancel_left_eq] at h
      simp only [← List.map_cons, List.flatMap_map] at h
      refine Told.flatMap_append ?_ (fun a _ => hstop a) (fun b _ => hstop b) u v (by simpa using h)
      intro x hx
      exact ((hpairs _ x hx).append_right _).append_left _

include has hbs

theorem Closes.told_oneLine :
    Told (fun as => bracketed opening closing margin (as.map f) .oneLine) as bs := by
  have hempty : ∀ {c : α} {cs}, Diverge (margin ++ closing) (f c .oneLine) →
      Diverge (bracketed opening closing margin [] .oneLine)
        (bracketed opening closing margin (f c :: cs) .oneLine) := by
    intro c cs hc
    rw [bracketed_oneLine_nil, bracketed_oneLine_cons]
    exact ((hc.append _).append_left margin).append_left opening
  have hstop : ∀ a, Diverge (margin ++ closing) ([',', ' '] ++ f a .oneLine) := by
    intro a
    exact hcloses.comma.append (' ' :: f a .oneLine)
  cases as with
  | nil =>
    cases bs with
    | nil => exact Told.refl _ _
    | cons b bs => exact Diverge.told (hempty (hbs b List.mem_cons_self))
  | cons a as =>
    cases bs with
    | nil => exact Diverge.told (hempty (has a List.mem_cons_self)).symm
    | cons b bs =>
      intro u v h
      simp only [List.map_cons, bracketed_oneLine_cons, List.append_assoc,
        List.append_cancel_left_eq, List.flatMap_map] at h
      obtain ⟨hab, hrest⟩ := hpairs .oneLine (a, b) (by simp) _ _ h
      have hbehind : Told (fun cs => cs.flatMap (fun c => [',', ' '] ++ f c .oneLine) ++
          (margin ++ closing)) as bs := by
        apply Told.flatMap_append _ (fun a _ => hstop a) fun b _ => hstop b
        intro x hx
        exact (hpairs .oneLine x (List.mem_cons_of_mem _ hx)).append_left _
      obtain ⟨hasbs, huv⟩ := hbehind u v (by simpa using hrest)
      exact ⟨List.cons_eq_cons.mpr ⟨hab, hasbs⟩, huv⟩

/-- Brackets are written alike only around the same parts. -/
theorem Closes.told (style : Style) :
    Told (fun as => bracketed opening closing margin (as.map f) style) as bs := by
  cases style with
  | oneLine => exact hcloses.told_oneLine hpairs has hbs
  | indented depth => exact hcloses.told_indented hpairs depth

end Brackets

theorem IsCode.bracketed (hf : IsCode f) (hcloses : Closes closing margin)
    (hfirst : ∀ a, Diverge (margin ++ closing) (f a .oneLine)) :
    IsCode fun as : List α => bracketed opening closing margin (as.map f) :=
  fun style _ _ => hcloses.told (fun style x _ => hf style x.1 x.2) (fun a _ => hfirst a)
    (fun b _ => hfirst b) style

theorem IsCode.applied (hf : IsCode f) (hfirst : ∀ a, Diverge [')'] (f a .oneLine))
    (name : String) : IsCode fun a => applied name (f a) := by
  have hcode : IsCode fun as : List α =>
      Layout.bracketed (name.toList ++ ['(']) [')'] [] (as.map f) :=
    hf.bracketed ⟨by decide, by decide, by decide⟩ hfirst
  intro style a b u v h
  obtain ⟨hab, huv⟩ := hcode style [a] [b] u v h
  exact ⟨List.singleton_inj.mp hab, huv⟩

theorem IsCode.list (hf : IsCode f) (hfirst : ∀ a, Diverge [']'] (f a .oneLine)) :
    IsCode fun as : List α => list (as.map f) :=
  hf.bracketed ⟨by decide, by decide, by decide⟩ hfirst

theorem IsCode.set (hf : IsCode f) (hfirst : ∀ a, Diverge ['\x7d'] (f a .oneLine)) :
    IsCode fun as : List α => set (as.map f) :=
  hf.bracketed ⟨by decide, by decide, by decide⟩ hfirst

theorem told_field {x y : String × Layout} {style : Style} (hname : x.1 = y.1)
    (hvalue : Told (fun p : Layout => p style) x.2 y.2) :
    Told (fun x : String × Layout => field x.1 x.2 style) x y := by
  obtain ⟨name, p⟩ := x
  obtain ⟨_, q⟩ := y
  obtain rfl : name = _ := hname
  intro u v h
  obtain ⟨hpq, huv⟩ := hvalue.append_left (name.toList ++ [':', ' ']) u v h
  exact ⟨Prod.ext rfl hpq, huv⟩

/-- Records with the same names are written alike only if they have the same values. -/
theorem told_record {fs gs : List (String × Layout)} (name : String)
    (h : List.Forall₂ (fun x y => x.1 = y.1 ∧ ∀ style, Told (fun p : Layout => p style) x.2 y.2)
      fs gs)
    (hnames : ∀ n ∈ fs.map Prod.fst, Diverge [' ', '\x7d'] n.toList) (style : Style) :
    Told (fun fs => record name fs style) fs gs := by
  have hfields : ∀ style, ∀ z ∈ fs.zip gs,
      Told (fun x : String × Layout => field x.1 x.2 style) z.1 z.2 := by
    intro style z hz
    obtain ⟨hname, hvalue⟩ := (List.forall₂_iff_zip.mp h).2 hz
    exact told_field hname (hvalue style)
  have hsame : fs.map Prod.fst = gs.map Prod.fst := by
    rw [← List.forall₂_eq_eq_eq, List.forall₂_map_left_iff, List.forall₂_map_right_iff]
    exact h.imp fun x y hxy => hxy.1
  have hfirst : ∀ {xs : List (String × Layout)},
      (∀ n ∈ xs.map Prod.fst, Diverge [' ', '\x7d'] n.toList) →
        ∀ x ∈ xs, Diverge ([' '] ++ ['\x7d']) (field x.1 x.2 .oneLine) := by
    intro xs hxs x hx
    exact ((hxs x.1 (List.mem_map_of_mem hx)).append _).append _
  exact Closes.told ⟨by decide, by decide, by decide⟩ hfields (hfirst hnames)
    (hfirst (hsame ▸ hnames)) style

theorem isCode_optionalText : IsCode optionalText := by
  have hsome : IsCode fun s => applied "Some" (text s) :=
    isCode_text.applied (fun _ => diverge_cons (by decide) _ _) "Some"
  have hbegin : Diverge "None".toList ("Some".toList ++ ['(']) := by decide
  have hnone : ∀ s style, Diverge (word "None" style) (applied "Some" (text s) style) :=
    fun s => diverge_applied_right hbegin (text s)
  intro style s t
  cases s with
  | none =>
    cases t with
    | none => exact Told.refl _ _
    | some t => exact Diverge.told (hnone t style)
  | some s =>
    cases t with
    | none => exact Diverge.told (hnone s style).symm
    | some t => exact (hsome style s t).map some

end Layout

end Signatures.Text
