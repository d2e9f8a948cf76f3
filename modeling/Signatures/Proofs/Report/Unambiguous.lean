import Signatures.Proofs.Report.Reports
import Signatures.Proofs.Text.Layout
import Signatures.Splitter.Basic

/-!
# What is written is unambiguous

The layouts of signatures and of splitters are put together from quoted texts and brackets, and so
they can be told from their front. The structures of several signatures may therefore follow one
another without anything between them that could be mistaken for a part of a signature.
-/

namespace Signatures

open Text Layout
set_option autoImplicit false

theorem Parameter.isCode_layout : IsCode Parameter.layout := by
  intro style p q u v h
  have hrecord : Told (fun fields => record "Argument" fields style)
      [("typ", text p.type), ("name", text p.name)]
      [("typ", text q.type), ("name", text q.name)] := by
    apply told_record
    · exact .cons ⟨rfl, isCode_text.told _ _⟩ (.cons ⟨rfl, isCode_text.told _ _⟩ .nil)
    · change ∀ name ∈ ["typ", "name"], Diverge [' ', '\x7d'] name.toList
      decide
  obtain ⟨hfields, huv⟩ := hrecord u v h
  simp only [List.cons.injEq, Prod.mk.injEq, true_and, and_true, isCode_text.injective.eq_iff]
    at hfields
  obtain ⟨type, name⟩ := p
  obtain ⟨rfl, rfl⟩ := hfields
  exact ⟨rfl, huv⟩

theorem Parameter.isCode_list_layout :
    IsCode fun ps : List Parameter => list (ps.map Parameter.layout) :=
  Parameter.isCode_layout.list fun _ => diverge_cons (by decide) _ _

theorem Signature.isCode_layout : IsCode Signature.layout := by
  intro style m n u v h
  have hrecord : Told (fun fields => record "MethodSignature" fields style)
      [("access_modifier", optionalText m.modifier), ("return_type", text m.returnType),
        ("name", text m.name), ("arguments", list (m.parameters.map Parameter.layout))]
      [("access_modifier", optionalText n.modifier), ("return_type", text n.returnType),
        ("name", text n.name), ("arguments", list (n.parameters.map Parameter.layout))] := by
    apply told_record
    · exact .cons ⟨rfl, isCode_optionalText.told _ _⟩ (.cons ⟨rfl, isCode_text.told _ _⟩
        (.cons ⟨rfl, isCode_text.told _ _⟩
          (.cons ⟨rfl, Parameter.isCode_list_layout.told _ _⟩ .nil)))
    · change ∀ name ∈ ["access_modifier", "return_type", "name", "arguments"],
        Diverge [' ', '\x7d'] name.toList
      decide
  obtain ⟨hfields, huv⟩ := hrecord u v h
  simp only [List.cons.injEq, Prod.mk.injEq, true_and, and_true, isCode_text.injective.eq_iff,
    isCode_optionalText.injective.eq_iff] at hfields
  obtain ⟨modifier, returnType, name, parameters⟩ := m
  obtain ⟨rfl, rfl, rfl, hparameters⟩ := hfields
  obtain rfl := Parameter.isCode_list_layout.injective hparameters
  exact ⟨rfl, huv⟩

theorem Rejection.isCode_layout : IsCode Rejection.layout := by
  have hkind : ∀ kind, IsCode fun t => applied kind (Layout.text t) := fun kind =>
    isCode_text.applied (fun _ => diverge_cons (by decide) _ _) kind
  have hkinds : ∀ t u style, Diverge (applied "Argument" (Layout.text t) style)
      (applied "Header" (Layout.text u) style) :=
    fun t u => diverge_applied (by decide) (Layout.text t) (Layout.text u)
  intro style d e
  cases d with
  | parameter t =>
    cases e with
    | parameter u => exact (hkind "Argument" style t u).map Rejection.parameter
    | header u => exact Diverge.told (hkinds t u style)
  | header t =>
    cases e with
    | parameter u => exact Diverge.told (hkinds u t style).symm
    | header u => exact (hkind "Header" style t u).map Rejection.header

/-- The prepared set of a splitter, after the name of its mode. -/
def Splitter.matcherLayout : Splitter → Layout
  | characters cs => applied "Characters" (set (cs.map character))
  | delimiters ds => applied "Delimiters" (list (ds.map text))

theorem Splitter.isCode_matcherLayout : IsCode Splitter.matcherLayout := by
  have hcharacters : IsCode fun cs : List Char => applied "Characters" (set (cs.map character)) :=
    (isCode_character.set fun _ => diverge_cons (by decide) _ _).applied
      (fun _ => diverge_cons (by decide) _ _) _
  have hdelimiters : IsCode fun ds : List String => applied "Delimiters" (list (ds.map text)) :=
    (isCode_text.list fun _ => diverge_cons (by decide) _ _).applied
      (fun _ => diverge_cons (by decide) _ _) _
  have hmodes : ∀ cs ds style, Diverge (matcherLayout (.characters cs) style)
      (matcherLayout (.delimiters ds) style) :=
    fun cs ds => diverge_applied (by decide) (set (cs.map character)) (list (ds.map text))
  intro style a b
  cases a with
  | characters cs =>
    cases b with
    | characters cs' => exact (hcharacters style cs cs').map Splitter.characters
    | delimiters ds => exact Diverge.told (hmodes cs ds style)
  | delimiters ds =>
    cases b with
    | characters cs => exact Diverge.told (hmodes cs ds style).symm
    | delimiters ds' => exact (hdelimiters style ds ds').map Splitter.delimiters

theorem Splitter.layout_eq (s : Splitter) :
    s.layout = record "Splitter" [("matcher", s.matcherLayout)] := by
  cases s <;> rfl

theorem Splitter.isCode_layout : IsCode Splitter.layout := by
  intro style a b u v h
  have hrecord : Told (fun fields => record "Splitter" fields style)
      [("matcher", a.matcherLayout)] [("matcher", b.matcherLayout)] := by
    apply told_record
    · exact .cons ⟨rfl, isCode_matcherLayout.told _ _⟩ .nil
    · change ∀ name ∈ ["matcher"], Diverge [' ', '\x7d'] name.toList
      decide
  simp only [Splitter.layout_eq] at h
  obtain ⟨hfields, huv⟩ := hrecord u v h
  simp only [List.cons.injEq, Prod.mk.injEq, true_and, and_true] at hfields
  exact ⟨isCode_matcherLayout.injective hfields, huv⟩

theorem structures_toList (ms : List Signature) :
    (structures ms).toList = ms.flatMap fun m => m.layout (.indented 0) ++ ['\n'] := by
  simp [structures, String.toList_join, List.flatMap_map, Layout.render]

/-- The structures of signatures, one behind another, are those of these signatures only. -/
theorem structures_injective : Function.Injective structures := by
  intro ms ns h
  have hpairs : ∀ x ∈ ms.zip ns,
      Told (fun m : Signature => m.layout (.indented 0) ++ ['\n']) x.1 x.2 :=
    fun x _ => (Signature.isCode_layout (.indented 0) x.1 x.2).append_right _
  have hend : ∀ m : Signature, Diverge ['\n'] (m.layout (.indented 0) ++ ['\n']) :=
    fun m => diverge_cons (by decide) _ _
  have htexts := congrArg String.toList h
  rw [structures_toList, structures_toList] at htexts
  exact (Told.flatMap_append hpairs (fun m _ => hend m) (fun n _ => hend n) [] []
    (by simp only [htexts])).1

/-- The output of reading signatures tells which they are, whatever characters they consist of. The
structure of one signature on one line tells it too, and so does that of a prepared splitter. -/
theorem written_form_tells_value :
    (∀ ms ns : List Signature, structures ms = structures ns ↔ ms = ns) ∧
      (∀ m n : Signature, m.layout.render .oneLine = n.layout.render .oneLine ↔ m = n) ∧
      ∀ (mode mode' : Mode) (ds es : List String),
        (Splitter.ofDelimiters mode ds).layout.render .oneLine =
            (Splitter.ofDelimiters mode' es).layout.render .oneLine ↔
          Splitter.ofDelimiters mode ds = Splitter.ofDelimiters mode' es := by
  refine ⟨fun ms ns => ?_, fun m n => ?_, fun mode mode' ds es => ?_⟩
  · exact structures_injective.eq_iff
  · exact (Signature.isCode_layout.render_injective .oneLine).eq_iff
  · exact (Splitter.isCode_layout.render_injective .oneLine).eq_iff

end Signatures
