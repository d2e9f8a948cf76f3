import Mathlib.Data.List.Flatten
import Signatures.Proofs.Report.Reports

/-!
# The log and the results

What a run writes apart from its log records, and the code that it ends with, are those of its
script and so the same under every filter. A filter that admits more records adds them where they
arise and moves nothing else. The filters for greater verbosity admit more, and a valid filter text
leaves no choice to the verbosity.
-/

namespace Signatures

open CommandLine
set_option autoImplicit false

section Filters

open Log

variable {f : Filter} {t : String} {n m : Nat}

theorem Log.Filter.admits_uniform (threshold : Threshold) (r : Record) :
    (uniform threshold).admits r = threshold.admits r.level := by
  simp [uniform, admits, thresholdOf, Directive.appliesTo, Directive.isUnconditional,
    Directive.moreSpecific]

/-- Without a request warnings are written, and every request admits one level more. -/
theorem Log.Filter.exists_ofVerbosity_eq (n : Nat) :
    ∃ level : Level, ofVerbosity n = uniform (some level) ∧ level.rank = min (n + 2) 5 := by
  match n with
  | 0 => exact ⟨.warn, rfl, rfl⟩
  | 1 => exact ⟨.info, rfl, rfl⟩
  | 2 => exact ⟨.debug, rfl, rfl⟩
  | n + 3 =>
    have hmin : min (n + 3 + 2) 5 = 5 := Nat.min_eq_right (by omega)
    exact ⟨.trace, rfl, hmin.symm⟩

theorem Log.Filter.admits_ofVerbosity_iff (n : Nat) (r : Record) :
    (ofVerbosity n).admits r = true ↔ r.level.rank ≤ min (n + 2) 5 := by
  obtain ⟨level, hlevel, hrank⟩ := exists_ofVerbosity_eq n
  rw [hlevel, admits_uniform, ← hrank]
  exact decide_eq_true_iff

theorem Log.Filter.admits_ofVerbosity_mono (h : n ≤ m) (r : Record)
    (hr : (ofVerbosity n).admits r = true) : (ofVerbosity m).admits r = true := by
  rw [admits_ofVerbosity_iff] at hr ⊢
  omega

theorem Log.Filter.select_eq_of_ofText? (h : ofText? t = some f) (n : Nat) :
    select (some t) n = f := by
  rw [select, Option.bind_some, h, Option.getD_some]

end Filters

/-- Whether a write goes to the error stream. -/
def Write.isError : Write → Bool
  | output _ => false
  | _ => true

/-- What a run writes to the error stream, in order. -/
def Outcome.errorWrites (o : Outcome) : List Write :=
  o.writes.filter Write.isError

/-- The writes that are no log records. -/
def unlogged (ws : List Write) : List Write :=
  ws.filter fun w => !w.isLog

variable {f g : Log.Filter}

theorem unlogged_logged (f : Log.Filter) (records : List Log.Record) :
    unlogged (Tally.logged f records) = [] := by
  apply List.filter_eq_nil_iff.mpr
  intro w hw
  obtain ⟨r, -, rfl⟩ := List.mem_map.mp hw
  simp [Write.isLog]

theorem Stage.unlogged_under (f : Log.Filter) (stage : Stage) :
    unlogged (stage.under f) = stage.writes := by
  have hwrites : unlogged stage.writes = stage.writes :=
    List.filter_eq_self.mpr fun w hw => by simp [stage.isLog_eq_false w hw]
  have happend : unlogged (stage.under f) =
      unlogged (Tally.logged f stage.records) ++ unlogged stage.writes :=
    List.filter_append ..
  rw [happend, unlogged_logged, hwrites, List.nil_append]

theorem Stage.under_sublist (h : ∀ r, f.admits r = true → g.admits r = true) (stage : Stage) :
    (stage.under f).Sublist (stage.under g) :=
  ((List.monotone_filter_right _ h).map _).append (List.Sublist.refl _)

theorem join_stdout_unlogged (ws : List Write) :
    String.join ((unlogged ws).map Write.stdout) = String.join (ws.map Write.stdout) := by
  rw [unlogged, ← List.filterMap_eq_filter]
  symm
  apply join_map_eq_filterMap
  intro w
  cases w <;> rfl

namespace Script

theorem unlogged_outcome (f : Log.Filter) (script : Script) :
    unlogged (script.outcome f).writes = script.stages.flatMap (·.writes) := by
  have hstages : unlogged (script.outcome f).writes =
      script.stages.flatMap fun stage => unlogged (stage.under f) :=
    List.filter_flatMap
  simp only [hstages, Stage.unlogged_under]

theorem stdout_outcome (f : Log.Filter) (script : Script) :
    (script.outcome f).stdout =
      String.join ((script.stages.flatMap (·.writes)).map Write.stdout) := by
  rw [Outcome.stdout, ← join_stdout_unlogged, unlogged_outcome]

theorem unlogged_errorWrites (f : Log.Filter) (script : Script) :
    unlogged (script.outcome f).errorWrites =
      (script.stages.flatMap (·.writes)).filter Write.isError := by
  rw [← unlogged_outcome f script, Outcome.errorWrites, unlogged, List.filter_comm]
  rfl

theorem outcome_sublist (h : ∀ r, f.admits r = true → g.admits r = true) (script : Script) :
    (script.outcome f).writes.Sublist (script.outcome g).writes :=
  List.Sublist.flatMap_right _ fun stage _ => stage.under_sublist h

end Script

/-- The filter has no part in the results of a command, more verbosity only adds log records, and a
valid filter text overrides it. The log records of a text stand between the report of the text
before it and its own. -/
theorem logging_never_interferes (files : Files) (c : Command) :
    (∀ (t t' : Option String) (n n' : Nat),
      let run := (⟨n, c⟩ : Invocation).run files t
      let run' := (⟨n', c⟩ : Invocation).run files t'
      run.stdout = run'.stdout ∧ run.code = run'.code ∧
        unlogged run.errorWrites = unlogged run'.errorWrites) ∧
    (∀ n m : Nat, n ≤ m →
      ((⟨n, c⟩ : Invocation).run files none).errorWrites.Sublist
        ((⟨m, c⟩ : Invocation).run files none).errorWrites) ∧
    (∀ (t : String) (n m : Nat), (Log.Filter.ofText? t).isSome →
      (⟨n, c⟩ : Invocation).run files (some t) = (⟨m, c⟩ : Invocation).run files (some t)) ∧
    ∀ (words : List String) (file : Option String) (texts : List String),
      c = .parse words file → files.given words file = .ok texts →
      ∀ (t : Option String) (n : Nat),
        ((⟨n, c⟩ : Invocation).run files t).writes =
          (texts.flatMap fun s =>
            Tally.logged (Log.Filter.select t n) ((Signature.read s).events.map Event.record) ++
              [report s]) ++
            (Stage.ofCount (Int32.ofNat (rejections texts).length) texts.length).writes := by
  have hrun : ∀ (n : Nat) (t : Option String), (⟨n, c⟩ : Invocation).run files t =
      (Script.ofCommand files c).outcome (Log.Filter.select t n) :=
    fun n t => run_eq_outcome files _ c
  refine ⟨?_, ?_, ?_, ?_⟩
  · intro t t' n n'
    dsimp only
    rw [hrun, hrun, Script.stdout_outcome, Script.stdout_outcome, Script.unlogged_errorWrites,
      Script.unlogged_errorWrites]
    exact ⟨rfl, rfl, rfl⟩
  · intro n m hnm
    simp only [hrun]
    exact (Script.outcome_sublist (Log.Filter.admits_ofVerbosity_mono hnm) _).filter _
  · intro t n m ht
    obtain ⟨f, hf⟩ := Option.isSome_iff_exists.mp ht
    rw [hrun, hrun, Log.Filter.select_eq_of_ofText? hf, Log.Filter.select_eq_of_ofText? hf]
  · rintro words file texts rfl hgiven t n
    change ((Command.parse words file).run files (Log.Filter.select t n)).writes = _
    rw [run_parse_of_given hgiven]
    exact Script.writes_ofTexts _ texts

theorem logging_never_interferes_debug :
    ((1 ≤ 2 ∧
        ((⟨1, .parse ["f(a)", "f"] none⟩ : Invocation).run (fun _ => .error .notFound)
            none).errorWrites.Sublist
          ((⟨2, .parse ["f(a)", "f"] none⟩ : Invocation).run (fun _ => .error .notFound)
            none).errorWrites) ∧
      (Log.Filter.ofText? "methodsig::parse=DEBUG").isSome ∧
        (⟨0, .parse ["f(a)", "f"] none⟩ : Invocation).run (fun _ => .error .notFound)
            (some "methodsig::parse=DEBUG") =
          (⟨3, .parse ["f(a)", "f"] none⟩ : Invocation).run (fun _ => .error .notFound)
            (some "methodsig::parse=DEBUG")) ∧
      Files.given (fun _ => .error .notFound) ["f(a)", "f"] none = .ok ["f(a)", "f"] ∧
        ((⟨2, .parse ["f(a)", "f"] none⟩ : Invocation).run (fun _ => .error .notFound)
            none).writes =
          [.log (Event.rejectedParameter "a").record, .rejected "f(a)" (.parameter "a"),
            .log (Event.rejectedHeader "f").record, .rejected "f" (.header "f"),
            .malformed 2 2] := by
  have hvalid : (Log.Filter.ofText? "methodsig::parse=DEBUG").isSome = true := by decide +kernel
  obtain ⟨-, hmore, htext, hblocks⟩ :=
    logging_never_interferes (fun _ => .error .notFound) (.parse ["f(a)", "f"] none)
  refine ⟨⟨⟨by decide, hmore 1 2 (by decide)⟩, hvalid, htext _ 0 3 hvalid⟩, rfl, ?_⟩
  exact (hblocks _ _ _ rfl rfl none 2).trans (by decide +kernel)

end Signatures
