import Signatures.Log.Message
import Signatures.Proofs.Signature.Formatting

/-!
# The events of reading

Reading tells its two sections first, and then a rejection if there is one: the events of a text can
be told from its sections and its result. They hold all that reading uses of the text, so that the
sections, written between fresh parentheses, are read with the same events and the same result.
-/

namespace Signatures

open Signature
set_option autoImplicit false

variable {s r : String} {h a : List Char}

/-- The event that tells a rejection. -/
def Event.ofRejection : Rejection → Event
  | .parameter t => .rejectedParameter t
  | .header t => .rejectedHeader t

/-- The events that follow the sections: one for a rejection, none for a signature. -/
def closingEvents : Except Rejection Signature → List Event
  | .ok _ => []
  | .error e => [.ofRejection e]

theorem read_eq (s : String) :
    read s =
      ⟨.sections (String.ofList (headerPart s.toList)) (String.ofList (parameterPart s.toList)) ::
        closingEvents (parse s), parse s⟩ := by
  rw [parse_eq_sections, Signature.read, Sections.ofText?_eq]
  dsimp only
  cases hps : Parameter.readList (parameterPart s.toList) with
  | error e =>
    obtain ⟨t, -, rfl⟩ := Parameter.readList_eq_error_iff.mp hps
    rfl
  | ok ps =>
    dsimp only
    cases hh : Header.read (headerPart s.toList) with
    | error e =>
      obtain ⟨-, rfl⟩ := Header.read_eq_error_iff.mp hh
      rfl
    | ok h => rfl

/-- Two texts with the same sections are read alike. -/
theorem read_eq_of_divided (hs : Divided s.toList h a) (hr : Divided r.toList h a) :
    read s = read r := by
  rw [read_eq, read_eq, parse_eq_of_divided hs hr rfl]
  obtain ⟨rfl, rfl⟩ := divided_iff.mp hs
  obtain ⟨hheader, hparameters⟩ := divided_iff.mp hr
  rw [hheader, hparameters]

/-- What is told of a rejection is told of no other. -/
theorem Event.ofRejection_eq_iff {e d : Rejection} :
    (ofRejection d).message = (ofRejection e).message ∧
      (ofRejection d).fields = (ofRejection e).fields ↔ d = e := by
  cases d <;> cases e <;> simp [ofRejection, message, fields]

theorem exists_ofRejection_iff (result : Except Rejection Signature) (e : Rejection) :
    (∃ x ∈ closingEvents result,
      x.message = (Event.ofRejection e).message ∧ x.fields = (Event.ofRejection e).fields) ↔
      result = .error e := by
  cases result with
  | ok m => simp [closingEvents]
  | error d => simp [closingEvents, Event.ofRejection_eq_iff]

theorem closingEvents_eq_nil_iff {result : Except Rejection Signature} :
    closingEvents result = [] ↔ ∃ m, result = .ok m := by
  cases result <;> simp [closingEvents]

theorem length_closingEvents_le (result : Except Rejection Signature) :
    (closingEvents result).length ≤ 1 := by
  cases result <;> simp [closingEvents]

/-- Reading tells the sections of a text, which are free of parentheses, and then at most one event
more: none for a signature, and for a rejection its kind with the text that it cites. The sections
alone, with the second in parentheses, are read with the same events and the same result. -/
theorem read_replays (s : String) :
    ∃ (h a : String) (more : List Event),
      (read s).events = .sections h a :: more ∧
        ((Event.sections h a).level = .trace ∧
          (Event.sections h a).fields = [("header", h), ("arguments", a)]) ∧
        more.length ≤ 1 ∧ (more = [] ↔ ∃ m, parse s = .ok m) ∧
        (∀ t, (∃ e ∈ more, e.message = "rejected argument" ∧ e.fields = [("text", t)]) ↔
          parse s = .error (.parameter t)) ∧
        (∀ t, (∃ e ∈ more, e.message = "rejected method header" ∧ e.fields = [("text", t)]) ↔
          parse s = .error (.header t)) ∧
        IsSection h.toList ∧ IsSection a.toList ∧ read (h ++ "(" ++ a ++ ")") = read s := by
  have hheader : IsSection (String.ofList (headerPart s.toList)).toList := by
    rw [String.toList_ofList]
    exact isSection_headerPart s.toList
  have hparameters : IsSection (String.ofList (parameterPart s.toList)).toList := by
    rw [String.toList_ofList]
    exact isSection_parameterPart s.toList
  have hagain := divided_enclosed hheader hparameters
  simp only [String.toList_ofList] at hagain
  refine ⟨_, _, closingEvents (parse s), by rw [read_eq], ⟨rfl, rfl⟩, length_closingEvents_le _,
    closingEvents_eq_nil_iff, fun t => exists_ofRejection_iff _ (.parameter t),
    fun t => exists_ofRejection_iff _ (.header t), hheader, hparameters,
    read_eq_of_divided hagain (divided_parts s.toList)⟩

example : (read "int)f(x").events = [.sections "int" "f", .rejectedParameter "f"] ∧
    (read "int(f)").events = [.sections "int" "f", .rejectedParameter "f"] := by
  decide +kernel

end Signatures
