import Signatures.Proofs.Report.Reports
import Signatures.Proofs.Text.Lines
import Signatures.Proofs.Text.Quoted

/-!
# The lines of a structure

A structure that is written on several lines has its name on the first, and each part stands on
lines of its own, four spaces deeper than the brackets around it. Quoted texts hold no line ends, so
that these are all the lines of the structure, whatever the texts are.
-/

namespace Signatures

open CommandLine Text Layout
set_option autoImplicit false

/-- A line of a structure at some depth of brackets, with the mark that ends it. -/
def structureLine (depth : Nat) (text mark : String) : String :=
  String.ofList (indentation depth) ++ text ++ mark

/-- The line of a quoted text, behind the name that it has. -/
def quotedLine (depth : Nat) (name s : String) : String :=
  structureLine depth (name ++ (Layout.text s).render .oneLine) ","

/-- The lines of a parameter in the list of a signature. -/
def Parameter.structureLines (p : Parameter) : List String :=
  [structureLine 2 "Argument" " \x7b", quotedLine 3 "typ: " p.type, quotedLine 3 "name: " p.name,
    structureLine 2 "\x7d" ","]

namespace Signature

def modifierLines : Option String → List String
  | none => [structureLine 1 "access_modifier: None" ","]
  | some s =>
    [structureLine 1 "access_modifier: Some" "(", quotedLine 2 "" s, structureLine 1 ")" ","]

def parameterLines (ps : List Parameter) : List String :=
  if ps = [] then [structureLine 1 "arguments: []" ","]
  else
    structureLine 1 "arguments: " "[" :: ps.flatMap Parameter.structureLines ++
      [structureLine 1 "]" ","]

/-- The lines of a signature, one part after the other. -/
def structureLines (m : Signature) : List String :=
  structureLine 0 "MethodSignature" " \x7b" :: modifierLines m.modifier ++
    [quotedLine 1 "return_type: " m.returnType, quotedLine 1 "name: " m.name] ++
    parameterLines m.parameters ++ [structureLine 0 "" "\x7d"]

end Signature

/-- The text of some lines, all of which end in a line feed. -/
def feedLines (ls : List String) : List Char :=
  ls.flatMap fun l => l.toList ++ ['\n']

theorem feedLines_nil : feedLines [] = [] := rfl

theorem feedLines_cons (l : String) (ls : List String) :
    feedLines (l :: ls) = l.toList ++ '\n' :: feedLines ls := by
  simp [feedLines]

theorem feedLines_append (ls ks : List String) :
    feedLines (ls ++ ks) = feedLines ls ++ feedLines ks :=
  List.flatMap_append

theorem feedLines_flatMap {α : Type} (f : α → List String) (as : List α) :
    feedLines (as.flatMap f) = as.flatMap fun a => feedLines (f a) :=
  List.flatMap_assoc

@[simp] theorem structureLine_toList (depth : Nat) (text mark : String) :
    (structureLine depth text mark).toList = indentation depth ++ (text.toList ++ mark.toList) := by
  simp [structureLine]

@[simp] theorem quotedLine_toList (depth : Nat) (name s : String) :
    (quotedLine depth name s).toList =
      indentation depth ++ (name.toList ++ (Quoted.text s.toList ++ [','])) := by
  simp [quotedLine, Layout.render, Layout.text]

theorem Parameter.feedLines_structureLines (p : Parameter) :
    feedLines p.structureLines =
      indentation 2 ++ (p.layout (.indented 2) ++ [',', '\n']) := by
  simp [structureLines, feedLines, layout, record, bracketed, field, Layout.text]

theorem Signature.feedLines_modifierLines (modifier : Option String) :
    feedLines (modifierLines modifier) =
      indentation 1 ++
        (field "access_modifier" (optionalText modifier) (.indented 1) ++ [',', '\n']) := by
  cases modifier with
  | none => simp [modifierLines, feedLines, optionalText, field, word]
  | some s =>
    simp [modifierLines, feedLines, optionalText, field, applied, bracketed, Layout.text]

theorem Signature.feedLines_parameterLines (ps : List Parameter) :
    feedLines (parameterLines ps) =
      indentation 1 ++ (field "arguments" (list (ps.map Parameter.layout)) (.indented 1) ++
        [',', '\n']) := by
  rw [parameterLines]
  split
  · rename_i hps
    simp [hps, feedLines, field, list, bracketed]
  · rename_i hps
    rw [feedLines_append, feedLines_cons, feedLines_flatMap]
    simp [hps, feedLines_cons, feedLines_nil, Parameter.feedLines_structureLines, field, list,
      bracketed, List.flatMap_map]

/-- The lines of a signature make up its structure. -/
theorem Signature.feedLines_structureLines (m : Signature) :
    feedLines m.structureLines = m.layout (.indented 0) ++ ['\n'] := by
  simp only [structureLines, feedLines_append, feedLines_cons, feedLines_nil,
    feedLines_modifierLines, feedLines_parameterLines]
  simp [layout, record, bracketed, field, Layout.text, indentation]

theorem structures_eq_join (ms : List Signature) :
    structures ms = String.join ((ms.flatMap Signature.structureLines).map (· ++ "\n")) := by
  rw [← String.toList_inj, String.toList_join, List.flatMap_map]
  have hlines := feedLines_flatMap Signature.structureLines ms
  simp only [Signature.feedLines_structureLines] at hlines
  simpa [structures, feedLines, String.toList_join, List.flatMap_map, Layout.render] using
    hlines.symm

theorem isLine_structureLine {depth : Nat} {text mark : String} (htext : '\n' ∉ text.toList)
    (hmark : IsLine mark) (hne : mark ≠ "") : IsLine (structureLine depth text mark) := by
  have hlast : mark.toList ≠ [] := by simpa using hne
  constructor
  · simp [indentation, htext, hmark.1]
  · rw [structureLine_toList, ← List.append_assoc, List.getLast?_append_of_ne_nil _ hlast]
    exact hmark.2

theorem isLine_quotedLine {depth : Nat} {name : String} (hname : '\n' ∉ name.toList) (s : String) :
    IsLine (quotedLine depth name s) := by
  apply isLine_structureLine _ (by decide) (by decide)
  simpa [Layout.render, Layout.text, hname] using Quoted.feed_not_mem_text s.toList

theorem Parameter.isLine_of_mem_structureLines {p : Parameter} :
    ∀ l ∈ p.structureLines, IsLine l := by
  simp only [structureLines, List.forall_mem_cons]
  exact ⟨by decide, isLine_quotedLine (by decide) _, isLine_quotedLine (by decide) _, by decide⟩

theorem Signature.isLine_of_mem_modifierLines {modifier : Option String} :
    ∀ l ∈ modifierLines modifier, IsLine l := by
  cases modifier with
  | none => decide
  | some s =>
    simp only [modifierLines, List.forall_mem_cons]
    exact ⟨by decide, isLine_quotedLine (by decide) _, by decide⟩

theorem Signature.isLine_of_mem_parameterLines {ps : List Parameter} :
    ∀ l ∈ parameterLines ps, IsLine l := by
  rw [parameterLines]
  split
  · decide
  · rw [List.cons_append, List.forall_mem_cons, List.forall_mem_append]
    refine ⟨by decide, ?_, by decide⟩
    intro l hl
    obtain ⟨p, -, hp⟩ := List.mem_flatMap.mp hl
    exact Parameter.isLine_of_mem_structureLines l hp

theorem Signature.isLine_of_mem_structureLines {m : Signature} :
    ∀ l ∈ m.structureLines, IsLine l := by
  simp only [structureLines, List.forall_mem_append, List.forall_mem_cons,
    List.cons_append]
  refine ⟨by decide, ⟨⟨isLine_of_mem_modifierLines, ?_⟩, isLine_of_mem_parameterLines⟩, by decide⟩
  exact ⟨isLine_quotedLine (by decide) _, isLine_quotedLine (by decide) _, List.forall_mem_nil _⟩

/-- The lines of some structures are those of the signatures, in order. -/
theorem lines_structures (ms : List Signature) :
    Text.lines (structures ms).toList =
      (ms.flatMap Signature.structureLines).map String.toList := by
  rw [structures_eq_join]
  apply lines_join_feed
  intro l hl
  obtain ⟨m, -, hm⟩ := List.mem_flatMap.mp hl
  exact Signature.isLine_of_mem_structureLines l hm

/-- Under a filter that admits no record of reading, the output of a run consists of the lines of
the signatures that are read. -/
theorem run_parse_lines {files : Files} {filter : Log.Filter} {words texts : List String}
    {file : Option String} (hfilter : ∀ e : Event, filter.admits e.record = false)
    (hgiven : files.given words file = .ok texts) :
    Text.lines ((Command.parse words file).run files filter).stdout.toList =
      ((accepted texts).flatMap Signature.structureLines).map String.toList := by
  rw [run_parse_of_given hgiven, stdout_ofTexts hfilter, lines_structures]

example : Signature.structureLines ⟨some "a\"", "b", "c", [⟨"d", "e\n"⟩]⟩ =
    ["MethodSignature \x7b",
     "    access_modifier: Some(",
     "        \"a\\\"\",",
     "    ),",
     "    return_type: \"b\",",
     "    name: \"c\",",
     "    arguments: [",
     "        Argument \x7b",
     "            typ: \"d\",",
     "            name: \"e\\n\",",
     "        \x7d,",
     "    ],",
     "\x7d"] := by
  decide +kernel

end Signatures
