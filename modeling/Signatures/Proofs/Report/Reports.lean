import Mathlib.Algebra.Group.Nat.Defs
import Signatures.Proofs.Report.Script

/-!
# Every text is reported

When nothing is logged, the output holds the structures of the signatures among the texts and the
error stream one complaint for each of the others, both in the order of the texts. The number of
complaints, which decides how the run ends, is the number of the lines before it. No report depends
on another text, so that the reports of two lists of texts follow one another.
-/

namespace Signatures

open CommandLine
set_option autoImplicit false

variable {files : Files} {filter : Log.Filter} {words texts : List String} {file : Option String}

/-- The texts that a command is given: its words, and then the lines of its file. -/
def Files.given (files : Files) (words : List String) :
    Option String → Except ReadFailure (List String)
  | none => .ok words
  | some file => (files.signatures file).map (words ++ ·)

/-- The signatures among some texts, in order. -/
def accepted (texts : List String) : List Signature :=
  texts.filterMap fun s => (Signature.parse s).toOption

/-- The structures of signatures, each on lines of its own. -/
def structures (ms : List Signature) : String :=
  String.join (ms.map fun m => m.layout.render (.indented 0) ++ "\n")

/-- A line for each rejection, with the text that is rejected. -/
def complaints (es : List (String × Rejection)) : String :=
  String.join (es.map fun (s, e) => s ++ ": " ++ e.message ++ "\n")

/-- The last line of a run with complaints. -/
def summary (count total : Nat) : String :=
  if count = 0 then ""
  else "Error: " ++ toString count ++ " of " ++ toString total ++ " signatures are malformed\n"

theorem run_parse_of_given (h : files.given words file = .ok texts) :
    (Command.parse words file).run files filter = (Script.ofTexts texts).outcome filter := by
  rw [run_eq_outcome]
  cases file with
  | none =>
    obtain rfl := Except.ok.inj h
    rfl
  | some file =>
    rw [Files.given] at h
    cases hmore : files.signatures file with
    | error failure => simp [hmore, Except.map] at h
    | ok more =>
      rw [hmore] at h
      obtain rfl := Except.ok.inj h
      simp [Script.ofCommand, hmore]

section Joined

variable {α β : Type} {f : α → Option β} {g : β → String} {h : α → String}

theorem join_map_append (g : α → String) (as bs : List α) :
    String.join ((as ++ bs).map g) = String.join (as.map g) ++ String.join (bs.map g) := by
  rw [List.map_append, String.join_append]

/-- Elements whose text is empty may be left out. -/
theorem join_map_eq_filterMap (hf : ∀ a, h a = (f a).elim "" g) (as : List α) :
    String.join (as.map h) = String.join ((as.filterMap f).map g) := by
  induction as with
  | nil => rfl
  | cons a as ih =>
    rw [List.map_cons, String.join_cons, ih, hf]
    cases ha : f a with
    | none => rw [List.filterMap_cons_none ha, Option.elim_none, String.empty_append]
    | some b => rw [List.filterMap_cons_some ha, List.map_cons, String.join_cons, Option.elim_some]

end Joined

theorem accepted_append (xs ys : List String) :
    accepted (xs ++ ys) = accepted xs ++ accepted ys :=
  List.filterMap_append

theorem join_stdout_report (texts : List String) :
    String.join ((texts.map report).map Write.stdout) = structures (accepted texts) := by
  rw [List.map_map]
  apply join_map_eq_filterMap
  intro s
  cases h : Signature.parse s with
  | ok m => rw [Function.comp_apply, report_of_ok h, Write.stdout_output]; rfl
  | error e => rw [Function.comp_apply, report_of_error h, Write.stdout_rejected]; rfl

theorem join_stderr_report (texts : List String) :
    String.join ((texts.map report).map Write.stderr) = complaints (rejections texts) := by
  rw [List.map_map]
  apply join_map_eq_filterMap
  intro s
  cases h : Signature.parse s with
  | ok m => rw [Function.comp_apply, report_of_ok h, Write.stderr_output]; rfl
  | error e => rw [Function.comp_apply, report_of_error h, Write.stderr_rejected]; rfl

section Count

variable {count : Nat}

theorem pos_ofNat_iff (hcount : count < 2 ^ 31) : 0 < Int32.ofNat count ↔ count ≠ 0 := by
  rw [Int32.lt_iff_toInt_lt, Int32.toInt_ofNat_of_lt hcount, Int32.toInt_zero]
  omega

theorem toString_ofNat (hcount : count < 2 ^ 31) :
    toString (Int32.ofNat count) = toString count := by
  change toString (Int32.ofNat count).toInt = _
  rw [Int32.toInt_ofNat_of_lt hcount]
  rfl

theorem writes_ofCount (hcount : count < 2 ^ 31) (total : Nat) :
    (Stage.ofCount (Int32.ofNat count) total).writes =
      if count = 0 then [] else [.malformed (Int32.ofNat count) total] := by
  simp only [Stage.ofCount, pos_ofNat_iff hcount, ne_eq, ite_not]

theorem join_stdout_ofCount (count : Int32) (total : Nat) :
    String.join ((Stage.ofCount count total).writes.map Write.stdout) = "" := by
  rw [Stage.ofCount]
  split <;> simp

theorem join_stderr_ofCount (hcount : count < 2 ^ 31) (total : Nat) :
    String.join ((Stage.ofCount (Int32.ofNat count) total).writes.map Write.stderr) =
      summary count total := by
  rw [writes_ofCount hcount, summary]
  by_cases h : count = 0
  · rw [if_pos h, if_pos h]
    rfl
  · rw [if_neg h, if_neg h, List.map_singleton, String.join_cons, String.join_nil,
      String.append_empty, Write.stderr_malformed, toString_ofNat hcount]

end Count

theorem length_rejections_lt (hlength : texts.length < 2 ^ 31) :
    (rejections texts).length < 2 ^ 31 :=
  Nat.lt_of_le_of_lt (List.length_filterMap_le _ _) hlength

/-- When none of their records is admitted, texts are only reported. -/
theorem writes_ofTexts_of_quiet (hfilter : ∀ e : Event, filter.admits e.record = false)
    (texts : List String) :
    ((Script.ofTexts texts).outcome filter).writes =
      texts.map report ++
        (Stage.ofCount (Int32.ofNat (rejections texts).length) texts.length).writes := by
  have hlogged : ∀ events : List Event, Tally.logged filter (events.map Event.record) = [] := by
    intro events
    simp [Tally.logged, hfilter]
  rw [Script.writes_ofTexts, List.map_eq_flatMap]
  simp only [hlogged, List.nil_append]

theorem stdout_ofTexts (hfilter : ∀ e : Event, filter.admits e.record = false)
    (texts : List String) :
    ((Script.ofTexts texts).outcome filter).stdout = structures (accepted texts) := by
  rw [Outcome.stdout, writes_ofTexts_of_quiet hfilter, List.map_append, String.join_append,
    join_stdout_report, join_stdout_ofCount, String.append_empty]

theorem stderr_ofTexts (hfilter : ∀ e : Event, filter.admits e.record = false)
    (hlength : texts.length < 2 ^ 31) :
    ((Script.ofTexts texts).outcome filter).stderr =
      complaints (rejections texts) ++ summary (rejections texts).length texts.length := by
  rw [Outcome.stderr, writes_ofTexts_of_quiet hfilter, List.map_append, String.join_append,
    join_stderr_report, join_stderr_ofCount (length_rejections_lt hlength)]

theorem code_ofTexts (hlength : texts.length < 2 ^ 31) :
    ((Script.ofTexts texts).outcome filter).code =
      if (rejections texts).length = 0 then 0 else 1 := by
  simp only [Script.outcome, Script.ofTexts, pos_ofNat_iff (length_rejections_lt hlength), ne_eq,
    ite_not]

/-- Under a filter that admits no record of reading, every text that is given is reported once and
in order, the complaints are counted at the end, and the code tells whether there is one. The
reports of two lists of texts follow one another, and their counts add up. -/
theorem run_parse_reports_each (files : Files) (filter : Log.Filter)
    (hfilter : ∀ e : Event, filter.admits e.record = false) :
    (∀ (words : List String) (file : Option String) (texts : List String),
      files.given words file = .ok texts → texts.length < 2 ^ 31 →
      let run := (Command.parse words file).run files filter
      run.stdout = structures (accepted texts) ∧
        run.stderr =
          complaints (rejections texts) ++ summary (rejections texts).length texts.length ∧
        run.code = if (rejections texts).length = 0 then 0 else 1) ∧
    ∀ xs ys : List String, (xs ++ ys).length < 2 ^ 31 →
      let run := fun texts => (Command.parse texts none).run files filter
      (run (xs ++ ys)).stdout = (run xs).stdout ++ (run ys).stdout ∧
        (run (xs ++ ys)).stderr =
          complaints (rejections xs) ++ complaints (rejections ys) ++
            summary ((rejections xs).length + (rejections ys).length)
              (xs.length + ys.length) := by
  constructor
  · intro words file texts hgiven hlength
    dsimp only
    rw [run_parse_of_given hgiven]
    exact ⟨stdout_ofTexts hfilter texts, stderr_ofTexts hfilter hlength, code_ofTexts hlength⟩
  · intro xs ys hlength
    have hrun : ∀ texts, (Command.parse texts none).run files filter =
        (Script.ofTexts texts).outcome filter :=
      fun texts => run_parse_of_given rfl
    simp only [hrun]
    constructor
    · rw [stdout_ofTexts hfilter, stdout_ofTexts hfilter, stdout_ofTexts hfilter, accepted_append]
      exact join_map_append _ _ _
    · have hcomplaints : complaints (rejections xs ++ rejections ys) =
          complaints (rejections xs) ++ complaints (rejections ys) :=
        join_map_append _ _ _
      rw [stderr_ofTexts hfilter hlength, rejections_append, hcomplaints, List.length_append,
        List.length_append]

theorem run_parse_reports_each_unlogged :
    (∀ e : Event, (Log.Filter.ofVerbosity 0).admits e.record = false) ∧
      (Files.given (fun _ => .ok "\u00a0\nint g\n".toUTF8) ["void log(String)", "int f()"]
          (some "more") = .ok ["void log(String)", "int f()", "int g"] ∧
        ((Command.parse ["void log(String)", "int f()"] (some "more")).run
          (fun _ => .ok "\u00a0\nint g\n".toUTF8) (Log.Filter.ofVerbosity 0)).code = 1) ∧
      ((Command.parse ["void log(String)", "int f()"] none).run
          (fun _ => .ok "\u00a0\nint g\n".toUTF8) (Log.Filter.ofVerbosity 0)).stderr =
        complaints [("void log(String)", .parameter "String")] ++ summary 1 2 := by
  have hfilter : ∀ e : Event, (Log.Filter.ofVerbosity 0).admits e.record = false := by
    intro e
    cases e <;> rfl
  have hgiven : Files.given (fun _ => .ok "\u00a0\nint g\n".toUTF8)
      ["void log(String)", "int f()"] (some "more") =
        .ok ["void log(String)", "int f()", "int g"] := by
    decide +kernel
  obtain ⟨hgiven_reports, happend⟩ :=
    run_parse_reports_each (fun _ => .ok "\u00a0\nint g\n".toUTF8) _ hfilter
  refine ⟨hfilter, ⟨hgiven, ?_⟩, ?_⟩
  · exact (hgiven_reports _ _ _ hgiven (by decide)).2.2.trans (by decide +kernel)
  · exact (happend ["void log(String)"] ["int f()"] (by decide)).2.trans (by decide +kernel)

end Signatures
