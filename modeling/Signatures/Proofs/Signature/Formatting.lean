import Signatures.Proofs.Signature.WellFormed

/-!
# Formatting

A text is read through its header and the trimmed pieces of its parameter list. The kind of its
parentheses, the text behind the second one and the blank characters around its pieces therefore
make no difference. Spaces behind the header are only seen when the header is cited.
-/

namespace Signatures

open Text
set_option autoImplicit false

variable {s r : String} {h a b : List Char} {ws : List (List Char)} {k : Nat}

theorem isBlank_iff_map_trim_splitOn : IsBlank a ↔ (a.splitOn ',').map trim = [[]] := by
  constructor
  · intro ha
    rw [List.splitOn_eq_singleton ha.comma_not_mem, List.map_singleton, trim_eq_nil_iff.mpr ha]
  · intro h
    obtain ⟨x, hsplit, hx⟩ := List.map_eq_singleton_iff.mp h
    have hjoin : [','].intercalate (a.splitOn ',') = a := List.intercalate_splitOn ','
    rw [hsplit, List.intercalate_singleton] at hjoin
    exact trim_eq_nil_iff.mp (hjoin ▸ hx)

/-- Only the trimmed pieces of a parameter list tell whether it is blank. -/
theorem pieces_congr (h : (a.splitOn ',').map trim = (b.splitOn ',').map trim) :
    pieces a = pieces b := by
  have hblank : IsBlank a ↔ IsBlank b := by
    rw [isBlank_iff_map_trim_splitOn, h, isBlank_iff_map_trim_splitOn]
  by_cases ha : IsBlank a
  · rw [pieces_eq_nil ha, pieces_eq_nil (hblank.mp ha)]
  · rw [pieces_eq_map_trim ha, pieces_eq_map_trim (hblank.not.mp ha), h]

theorem parse_eq_of_divided (hs : Divided s.toList h a) (hr : Divided r.toList h b)
    (hab : pieces a = pieces b) : Signature.parse s = Signature.parse r := by
  obtain ⟨rfl, rfl⟩ := divided_iff.mp hs
  obtain ⟨hheader, rfl⟩ := divided_iff.mp hr
  rw [parse_eq_sections, parse_eq_sections, Parameter.readList_eq_mapM,
    Parameter.readList_eq_mapM, hab, hheader]

theorem divided_enclosed (hs : IsSection s.toList) (hr : IsSection r.toList) :
    Divided (s ++ "(" ++ r ++ ")").toList s.toList r.toList := by
  simpa using Divided.closed (t := []) hs hr (p := '(') (q := ')') rfl rfl

theorem IsBlank.isSection (ha : IsBlank a) : IsSection a := by
  rw [isSection_iff]
  constructor
  · intro h
    exact absurd (ha '(' h) (by decide)
  · intro h
    exact absurd (ha ')' h) (by decide)

section Spaces

theorem headerText_append_replicate :
    HeaderText (h ++ List.replicate k ' ') ws ↔ HeaderText h ws := by
  rw [← dropEmptyEnd_splitOn_iff, splitOn_append_replicate, dropEmptyEnd_append_replicate,
    dropEmptyEnd_splitOn_iff]

theorem isHeader_append_replicate : IsHeader (h ++ List.replicate k ' ') ↔ IsHeader h := by
  simp only [IsHeader, headerText_append_replicate]

theorem isSection_append_replicate (hh : IsSection h) (k : Nat) :
    IsSection (h ++ List.replicate k ' ') := by
  apply isSection_append.mpr
  refine ⟨hh, fun c hc => ?_⟩
  rw [List.eq_of_mem_replicate hc]
  decide

variable (hs : Divided s.toList h a) (hr : Divided r.toList (h ++ List.replicate k ' ') a)
include hs hr

theorem parse_eq_ok_iff_of_spaces (m : Signature) :
    Signature.parse r = .ok m ↔ Signature.parse s = .ok m := by
  obtain ⟨hheader, ha⟩ := divided_iff.mp hs
  obtain ⟨hspaced, ha'⟩ := divided_iff.mp hr
  rw [parse_eq_ok_sections_iff, parse_eq_ok_sections_iff, ← hspaced, headerText_append_replicate,
    ← ha', ← ha, ← hheader]

theorem parse_eq_parameter_iff_of_spaces (t : String) :
    Signature.parse r = .error (.parameter t) ↔ Signature.parse s = .error (.parameter t) := by
  obtain ⟨-, ha⟩ := divided_iff.mp hs
  obtain ⟨-, ha'⟩ := divided_iff.mp hr
  rw [parse_eq_parameter_iff, parse_eq_parameter_iff, ← ha', ← ha]

/-- The spaces belong to the header that is cited, but whether it is cited does not depend on
them. -/
theorem parse_eq_header_iff_of_spaces (t : String) :
    Signature.parse r = .error (.header t) ↔
      t.toList = h ++ List.replicate k ' ' ∧
        Signature.parse s = .error (.header (String.ofList h)) := by
  obtain ⟨hheader, ha⟩ := divided_iff.mp hs
  obtain ⟨hspaced, ha'⟩ := divided_iff.mp hr
  rw [parse_eq_header_iff, parse_eq_header_iff, ← hspaced, isHeader_append_replicate, ← ha', ← ha,
    ← hheader, String.toList_ofList]
  tauto

end Spaces

/-- A piece of a parameter list with blank characters on both sides. -/
structure PaddedPiece where
  left : String
  piece : String
  right : String
  isBlank_left : IsBlank left.toList
  isBlank_right : IsBlank right.toList
  isSection_piece : IsSection piece.toList
  comma_not_mem_piece : ',' ∉ piece.toList

namespace PaddedPiece

def text (x : PaddedPiece) : String :=
  x.left ++ x.piece ++ x.right

theorem isSection_text (x : PaddedPiece) : IsSection x.text.toList := by
  simp only [text, String.toList_append, isSection_append]
  exact ⟨⟨x.isBlank_left.isSection, x.isSection_piece⟩, x.isBlank_right.isSection⟩

theorem comma_not_mem_text (x : PaddedPiece) : ',' ∉ x.text.toList := by
  simp only [text, String.toList_append, List.mem_append, not_or]
  exact ⟨⟨x.isBlank_left.comma_not_mem, x.comma_not_mem_piece⟩, x.isBlank_right.comma_not_mem⟩

theorem trim_text (x : PaddedPiece) : trim x.text.toList = trim x.piece.toList := by
  simp only [text, String.toList_append]
  exact trim_append x.isBlank_left x.isBlank_right x.piece.toList

end PaddedPiece

/-- Pieces with a comma between any two. -/
def joined (ps : List String) : String :=
  ",".intercalate ps

theorem joined_toList (ps : List String) :
    (joined ps).toList = [','].intercalate (ps.map String.toList) := by
  simp [joined]

theorem isSection_joined {ps : List String} (h : ∀ p ∈ ps, IsSection p.toList) :
    IsSection (joined ps).toList := by
  rw [joined_toList]
  exact (isSection_intercalate (by decide)).mpr (List.forall_mem_map.mpr h)

theorem splitOn_joined {ps : List String} (hne : ps ≠ []) (h : ∀ p ∈ ps, ',' ∉ p.toList) :
    (joined ps).toList.splitOn ',' = ps.map String.toList := by
  rw [joined_toList]
  exact List.splitOn_intercalate ',' (List.forall_mem_map.mpr h) (by simpa using hne)

/-- Padding is taken away when the pieces are trimmed. -/
theorem pieces_joined_text (ps : List PaddedPiece) :
    pieces (joined (ps.map PaddedPiece.text)).toList =
      pieces (joined (ps.map PaddedPiece.piece)).toList := by
  cases ps with
  | nil => rfl
  | cons x ps =>
    apply pieces_congr
    rw [splitOn_joined (by simp) (List.forall_mem_map.mpr fun y _ => y.comma_not_mem_text),
      splitOn_joined (by simp) (List.forall_mem_map.mpr fun y _ => y.comma_not_mem_piece)]
    simp only [List.map_map]
    apply List.map_congr_left
    exact fun y _ => y.trim_text

/-- Neither the parentheses around the parameters nor what follows them nor the blank characters
around each parameter have a part in the result. Spaces behind the header only appear where a
rejection cites the header. -/
theorem parse_ignores_formatting (header tail : String) (ps : List PaddedPiece) (p q : Char)
    (k : Nat) (hheader : IsSection header.toList) (hp : isParenthesis p = true)
    (hq : isParenthesis q = true) :
    let padded := joined (ps.map PaddedPiece.text)
    let bare := joined (ps.map PaddedPiece.piece)
    let spaces := String.ofList (List.replicate k ' ')
    let plain := Signature.parse (header ++ "(" ++ bare ++ ")")
    let spaced := Signature.parse (header ++ spaces ++ "(" ++ bare ++ ")")
    (Signature.parse (header ++ p.toString ++ padded ++ q.toString ++ tail) = plain ∧
        Signature.parse (header ++ p.toString ++ padded) = plain) ∧
      (∀ m, spaced = .ok m ↔ plain = .ok m) ∧
      (∀ t, spaced = .error (.parameter t) ↔ plain = .error (.parameter t)) ∧
      ∀ t, spaced = .error (.header t) ↔
        t = header ++ spaces ∧ plain = .error (.header header) := by
  have hpadded : IsSection (joined (ps.map PaddedPiece.text)).toList :=
    isSection_joined (List.forall_mem_map.mpr fun x _ => x.isSection_text)
  have hbare : IsSection (joined (ps.map PaddedPiece.piece)).toList :=
    isSection_joined (List.forall_mem_map.mpr fun x _ => x.isSection_piece)
  have hplain := divided_enclosed hheader hbare
  have hspaces : (header ++ String.ofList (List.replicate k ' ')).toList =
      header.toList ++ List.replicate k ' ' := by
    rw [String.toList_append, String.toList_ofList]
  have hspaced := divided_enclosed (hspaces ▸ isSection_append_replicate hheader k) hbare
  rw [hspaces] at hspaced
  refine ⟨⟨?_, ?_⟩, parse_eq_ok_iff_of_spaces hplain hspaced,
    parse_eq_parameter_iff_of_spaces hplain hspaced, ?_⟩
  · apply parse_eq_of_divided _ hplain (pieces_joined_text ps)
    simpa using Divided.closed hheader hpadded hp hq (t := tail.toList)
  · apply parse_eq_of_divided _ hplain (pieces_joined_text ps)
    simpa using Divided.opened hheader hpadded hp
  · intro t
    have hcited := parse_eq_header_iff_of_spaces hplain hspaced t
    rw [String.ofList_toList] at hcited
    rw [hcited, ← String.toList_inj, hspaces]

theorem parse_ignores_formatting_loose :
    (IsSection "f".toList ∧ isParenthesis ')' = true ∧ isParenthesis '(' = true) ∧
      Signature.parse "f)\u00a0a b\t, c\u2003d e(x)" = Signature.parse "f(a b,c\u2003d e)" ∧
      Signature.parse "f  (a b,c\u2003d e)" = .error (.header "f  ") := by
  have hheader : IsSection "f".toList := by decide
  obtain ⟨⟨hloose, -⟩, -, -, hcited⟩ := parse_ignores_formatting "f" "x)"
    [⟨"\u00a0", "a b", "\t", by decide, by decide, by decide, by decide⟩,
      ⟨" ", "c\u2003d e", "", by decide, by decide, by decide, by decide⟩]
    ')' '(' 2 hheader rfl rfl
  exact ⟨⟨hheader, rfl, rfl⟩, hloose, (hcited "f  ").mpr ⟨rfl, rfl⟩⟩

end Signatures
