import Signatures.Text.Basic

/-!
# The lines of a text

A text whose lines end in one of the two ways is divided into just these lines. The end that was
chosen for a line is not part of it, and the last line needs none.
-/

namespace Signatures

open Text
set_option autoImplicit false

variable {t : List Char}

/-- A text that stands on one line, of which no end of a line takes anything away. -/
structure Line where
  text : String
  feed_not_mem : '\n' ∉ text.toList
  return_not_last : text.toList.getLast? ≠ some '\r'

inductive LineEnd where
  | feed
  | returnFeed

def LineEnd.text : LineEnd → String
  | feed => "\n"
  | returnFeed => "\r\n"

/-- Lines with their ends, and maybe a last one without. -/
structure LinedText where
  ended : List (Line × LineEnd)
  last : Option Line

namespace LinedText

def content (t : LinedText) : String :=
  String.join (t.ended.map fun x => x.1.text ++ x.2.text) ++ t.last.elim "" Line.text

def lines (t : LinedText) : List String :=
  t.ended.map (fun x => x.1.text) ++ t.last.toList.map Line.text

end LinedText

theorem lines_append_feed (ht : '\n' ∉ t) (s : List Char) :
    Text.lines (t ++ '\n' :: s) = dropReturn t :: Text.lines s := by
  obtain ⟨u, us, hu⟩ := List.exists_cons_of_ne_nil (List.splitOn_ne_nil '\n' s)
  rw [Text.lines, Text.lines, List.splitOn_append_cons_self_of_not_mem ht, hu]
  rfl

theorem lines_of_feed_not_mem (ht : '\n' ∉ t) : Text.lines t = [t].filter (· ≠ []) := by
  rw [Text.lines, List.splitOn_eq_singleton ht]
  rfl

theorem dropReturn_eq_self (ht : t.getLast? ≠ some '\r') : dropReturn t = t :=
  if_neg ht

theorem dropReturn_append_return (t : List Char) : dropReturn (t ++ ['\r']) = t := by
  rw [dropReturn, if_pos List.getLast?_concat, List.dropLast_concat]

theorem Line.lines_append (l : Line) (e : LineEnd) (s : List Char) :
    Text.lines ((l.text ++ e.text).toList ++ s) = l.text.toList :: Text.lines s := by
  cases e with
  | feed =>
    have hline := lines_append_feed l.feed_not_mem s
    rw [dropReturn_eq_self l.return_not_last] at hline
    simpa [LineEnd.text] using hline
  | returnFeed =>
    have hreturn : '\n' ∉ l.text.toList ++ ['\r'] := by simp [l.feed_not_mem]
    have hline := lines_append_feed hreturn s
    rw [dropReturn_append_return] at hline
    simpa [LineEnd.text] using hline

/-- A last line without an end is missing when it is empty. -/
theorem LinedText.lines_content (t : LinedText) :
    Text.lines t.content.toList =
      (t.ended.map fun x => x.1.text.toList) ++
        (t.last.toList.map fun l => l.text.toList).filter (· ≠ []) := by
  obtain ⟨ended, last⟩ := t
  induction ended with
  | nil =>
    cases last with
    | none => rfl
    | some l => simpa [content] using lines_of_feed_not_mem l.feed_not_mem
  | cons x ended ih =>
    have hcontent : (LinedText.mk (x :: ended) last).content.toList =
        (x.1.text ++ x.2.text).toList ++ (LinedText.mk ended last).content.toList := by
      simp [content]
    rw [hcontent, x.1.lines_append, ih]
    rfl

/-- A text on one line, which stays as it is when a line feed follows. -/
def IsLine (l : String) : Prop :=
  '\n' ∉ l.toList ∧ l.toList.getLast? ≠ some '\r'

instance (l : String) : Decidable (IsLine l) :=
  inferInstanceAs (Decidable (_ ∧ _))

theorem lines_join_feed {ls : List String} (hls : ∀ l ∈ ls, IsLine l) :
    Text.lines (String.join (ls.map (· ++ "\n"))).toList = ls.map String.toList := by
  induction ls with
  | nil => rfl
  | cons l ls ih =>
    obtain ⟨⟨hfeed, hreturn⟩, htail⟩ := List.forall_mem_cons.mp hls
    have hline := Line.lines_append ⟨l, hfeed, hreturn⟩ .feed
      (String.join (ls.map (· ++ "\n"))).toList
    rw [ih htail] at hline
    rw [List.map_cons, String.join_cons, String.toList_append]
    exact hline

end Signatures
