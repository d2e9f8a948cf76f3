import Signatures.Signature.Reading

/-!
# The grammar of signatures

What a text has to look like to denote a signature, said without reading it. A signature is well
formed if some text denotes it: its words are not empty and hold none of the characters that would
divide them.
-/

namespace Signatures

def IsSection (s : List Char) : Prop :=
  ∀ c ∈ s, isParenthesis c = false

def IsBlank (s : List Char) : Prop :=
  ∀ c ∈ s, Text.isBlank c = true

/-- A text that is not empty and has no space. -/
def IsWord (w : List Char) : Prop :=
  w ≠ [] ∧ ' ' ∉ w

/-- `Divided s h a` says that the first two parentheses of `s` enclose `a` and follow `h`. Both may
be missing, and any text may follow the second. -/
inductive Divided : List Char → List Char → List Char → Prop
  | header {h} : IsSection h → Divided h h []
  | opened {h a p} : IsSection h → IsSection a → isParenthesis p = true →
      Divided (h ++ p :: a) h a
  | closed {h a p q t} : IsSection h → IsSection a → isParenthesis p = true →
      isParenthesis q = true → Divided (h ++ p :: (a ++ q :: t)) h a

/-- A header is its words with one space between them and any number of spaces at the end. -/
def HeaderText (h : List Char) (ws : List (List Char)) : Prop :=
  (∀ w ∈ ws, IsWord w) ∧
    ∃ k, h = [' '].intercalate ws ++ List.replicate k ' '

/-- A type and a name that stand between commas: words without a comma, the type not beginning and
the name not ending with a blank character. -/
def Parameter.Separable (p : Parameter) : Prop :=
  IsWord p.type.toList ∧ IsWord p.name.toList ∧ ',' ∉ p.type.toList ∧ ',' ∉ p.name.toList ∧
    (∀ c ∈ p.type.toList.head?, Text.isBlank c = false) ∧
    (∀ c ∈ p.name.toList.getLast?, Text.isBlank c = false)

/-- A parameter is its type, one space and its name, with blank characters around. -/
def ParameterText (s : List Char) (p : Parameter) : Prop :=
  p.Separable ∧ ∃ u v, IsBlank u ∧ IsBlank v ∧ s = u ++ p.render.toList ++ v

/-- One parameter or more, with commas between them. -/
inductive ParameterTexts : List Char → List Parameter → Prop
  | last {s p} : ParameterText s p → ParameterTexts s [p]
  | cons {s r p ps} : ParameterText s p → ParameterTexts r ps →
      ParameterTexts (s ++ ',' :: r) (p :: ps)

/-- `Denotes s m` says that the text `s` is written in the grammar and that its parts are those
of `m`. -/
def Denotes (s : List Char) (m : Signature) : Prop :=
  ∃ h a, Divided s h a ∧ HeaderText h (m.headerWords.map String.toList) ∧
    ((IsBlank a ∧ m.parameters = []) ∨ ParameterTexts a m.parameters)

/-- A signature that some text denotes. -/
def Signature.WellFormed (m : Signature) : Prop :=
  (∀ w ∈ m.headerWords, IsWord w.toList ∧ IsSection w.toList) ∧
    ∀ p ∈ m.parameters, p.Separable ∧ IsSection p.type.toList ∧ IsSection p.name.toList

end Signatures
