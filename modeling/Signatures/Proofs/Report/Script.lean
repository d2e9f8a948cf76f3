import Mathlib.Data.List.Basic
import Signatures.Report.Run

/-!
# What a command writes under any filter

A filter of the log only decides which log records are written. Everything else is settled before: a
run goes through stages, and in each the log records that arise come first, followed by what is
written in any case. Reading goes through one stage for every text, in order, and a last one for the
number of complaints.
-/

namespace Signatures

open CommandLine
set_option autoImplicit false

/-- The log records that arise at some point of a run, and what is written behind them whatever the
log admits. -/
structure Stage where
  records : List Log.Record
  writes : List Write
  isLog_eq_false : ∀ w ∈ writes, w.isLog = false

def Stage.under (filter : Log.Filter) (stage : Stage) : List Write :=
  Tally.logged filter stage.records ++ stage.writes

/-- The stages of a run, and the code that it ends with. -/
structure Script where
  stages : List Stage
  code : Nat

def Script.outcome (filter : Log.Filter) (script : Script) : Outcome :=
  ⟨script.stages.flatMap (·.under filter), script.code⟩

/-- What is written about a text: the structure of its signature, or a complaint. -/
def report (s : String) : Write :=
  match Signature.parse s with
  | .ok m => .output (m.layout.render (.indented 0) ++ "\n")
  | .error e => .rejected s e

/-- The texts that are no signatures, each with its rejection, in order. -/
def rejections (texts : List String) : List (String × Rejection) :=
  texts.filterMap fun s =>
    match Signature.parse s with
    | .ok _ => none
    | .error e => some (s, e)

theorem isLog_report (s : String) : (report s).isLog = false := by
  rw [report]
  cases Signature.parse s <;> rfl

namespace Stage

def ofText (s : String) : Stage where
  records := (Signature.read s).events.map Event.record
  writes := [report s]
  isLog_eq_false := by simpa using isLog_report s

def ofCount (count : Int32) (total : Nat) : Stage where
  records := []
  writes := if 0 < count then [.malformed count total] else []
  isLog_eq_false := by split <;> simp [Write.isLog]

def ofFailure (file : String) (failure : ReadFailure) : Stage where
  records := []
  writes := [.unreadable file failure]
  isLog_eq_false := by simp [Write.isLog]

def ofSplit (splitter : Splitter) (source : String) (ds : List String) : Stage where
  records := [.splitting splitter.mode ds]
  writes := (splitter.split source).map fun token => .output (token ++ "\n")
  isLog_eq_false := by simp [Write.isLog]

end Stage

namespace Script

/-- The script of reading texts. Their complaints are counted with 32 bits. -/
def ofTexts (texts : List String) : Script :=
  let count := Int32.ofNat (rejections texts).length
  ⟨texts.map Stage.ofText ++ [Stage.ofCount count texts.length], if 0 < count then 1 else 0⟩

def ofCommand (files : Files) : Command → Script
  | .parse words none => ofTexts words
  | .parse words (some file) =>
    match files.signatures file with
    | .ok more => ofTexts (words ++ more)
    | .error failure => ⟨[Stage.ofFailure file failure], 1⟩
  | .split source ds mode => ⟨[Stage.ofSplit (.ofDelimiters mode ds) source ds], 0⟩

end Script

variable {filter : Log.Filter} {files : Files} {s : String} {m : Signature} {e : Rejection}

theorem report_of_ok (h : Signature.parse s = .ok m) :
    report s = .output (m.layout.render (.indented 0) ++ "\n") := by
  rw [report, h]

theorem report_of_error (h : Signature.parse s = .error e) : report s = .rejected s e := by
  rw [report, h]

theorem rejections_cons_of_ok (h : Signature.parse s = .ok m) (texts : List String) :
    rejections (s :: texts) = rejections texts :=
  List.filterMap_cons_none (by rw [h])

theorem rejections_cons_of_error (h : Signature.parse s = .error e) (texts : List String) :
    rejections (s :: texts) = (s, e) :: rejections texts :=
  List.filterMap_cons_some (by rw [h])

theorem rejections_append (xs ys : List String) :
    rejections (xs ++ ys) = rejections xs ++ rejections ys :=
  List.filterMap_append

theorem Stage.under_ofText (filter : Log.Filter) (s : String) :
    (Stage.ofText s).under filter =
      Tally.logged filter ((Signature.read s).events.map Event.record) ++ [report s] := rfl

/-- One text adds its stage to what has been written, and its complaint to the count. -/
theorem Tally.add_eq (t : Tally) (s : String) :
    t.add filter s =
      ⟨t.writes ++ (Stage.ofText s).under filter,
        t.malformed + Int32.ofNat (rejections [s]).length⟩ := by
  have hresult : (Signature.read s).result = Signature.parse s := rfl
  cases h : Signature.parse s with
  | ok m =>
    rw [Tally.add, hresult, h, rejections_cons_of_ok h, Stage.under_ofText, report_of_ok h]
    simp [rejections]
  | error e =>
    rw [Tally.add, hresult, h, rejections_cons_of_error h, Stage.under_ofText, report_of_error h]
    simp [rejections]

theorem Tally.foldl_add_eq (texts : List String) (t : Tally) :
    texts.foldl (Tally.add filter) t =
      ⟨t.writes ++ texts.flatMap fun s => (Stage.ofText s).under filter,
        t.malformed + Int32.ofNat (rejections texts).length⟩ := by
  induction texts generalizing t with
  | nil => simp [rejections]
  | cons s texts ih =>
    have hrejections : rejections (s :: texts) = rejections [s] ++ rejections texts :=
      rejections_append [s] texts
    rw [List.foldl_cons, ih, Tally.add_eq, hrejections, List.length_append, Int32.ofNat_add,
      List.flatMap_cons, List.append_assoc, Int32.add_assoc]

theorem Tally.outcome_eq (filter : Log.Filter) (t : Tally) (total : Nat) :
    t.outcome total =
      ⟨t.writes ++ (Stage.ofCount t.malformed total).under filter,
        if 0 < t.malformed then 1 else 0⟩ := by
  rw [Tally.outcome, Stage.under, Stage.ofCount]
  split <;> simp [Tally.logged]

theorem parseAll_eq_outcome (texts : List String) :
    parseAll filter texts = (Script.ofTexts texts).outcome filter := by
  rw [parseAll, Tally.foldl_add_eq, Tally.outcome_eq filter]
  simp [Tally.empty, Script.outcome, Script.ofTexts, List.flatMap_map]

/-- A run is the outcome of a script in which the filter has no part. -/
theorem run_eq_outcome (files : Files) (filter : Log.Filter) (c : Command) :
    c.run files filter = (Script.ofCommand files c).outcome filter := by
  cases c with
  | parse words file =>
    cases file with
    | none => exact parseAll_eq_outcome words
    | some file =>
      rw [Command.run, parseWithFile, Script.ofCommand]
      cases files.signatures file with
      | ok more => exact parseAll_eq_outcome (words ++ more)
      | error failure => simp [Script.outcome, Stage.under, Stage.ofFailure, Tally.logged]
  | split source ds mode =>
    simp [Command.run, splitText, Script.ofCommand, Script.outcome, Stage.under, Stage.ofSplit]

/-- The log records of a text stand between the report of the text before it and its own. -/
theorem Script.writes_ofTexts (filter : Log.Filter) (texts : List String) :
    ((ofTexts texts).outcome filter).writes =
      (texts.flatMap fun s =>
        Tally.logged filter ((Signature.read s).events.map Event.record) ++ [report s]) ++
        (Stage.ofCount (Int32.ofNat (rejections texts).length) texts.length).writes := by
  rw [outcome, ofTexts, List.flatMap_append, List.flatMap_map, List.flatMap_singleton]
  simp only [Stage.under_ofText]
  rfl

end Signatures
