import Signatures.Reader
import Signatures.Signature.Basic
import Signatures.Text.Basic

/-!
# Reading a signature

The first two parentheses of a text, of either kind, end its header and its parameter list; what
follows the second is ignored. The parameters are read first, from left to right, and then the
header, so that a text with several faults is rejected for its leftmost faulty parameter. Reading
also tells its events in the order in which they happen.

The text of a result is the written form of its signature, or the text that its rejection cites.
Reading that text gives another result.
-/

namespace Signatures

inductive Event where
  | sections (header parameters : String)
  | rejectedParameter (text : String)
  | rejectedHeader (text : String)
deriving DecidableEq

/-- Results are the same if they are the same signature or the same rejection. -/
instance : DecidableEq (Except Rejection Signature)
  | .ok m, .ok n => decidable_of_iff (m = n) (by simp)
  | .error e, .error f => decidable_of_iff (e = f) (by simp)
  | .ok _, .error _ => isFalse (by simp)
  | .error _, .ok _ => isFalse (by simp)

/-- What comes of reading a text: the events on the way, and a signature or a rejection. -/
structure Reading where
  events : List Event
  result : Except Rejection Signature

/-- Either parenthesis ends a section. -/
def isParenthesis (c : Char) : Bool :=
  c = '(' || c = ')'

/-- The parts of a text at its first two parentheses. -/
structure Sections where
  header : List Char
  parameters : List Char

/-- Divides a text at its parentheses. Without any, the parameter list is empty. -/
def Sections.reader : Reader Sections := do
  let header ← Reader.takeTill isParenthesis
  let parameters ← Reader.optional do
    let _ ← Reader.satisfying isParenthesis
    Reader.takeTill isParenthesis
  let _ ← Reader.remainder
  return ⟨header, parameters.getD []⟩

/-- The parts of a text, all of which is read. -/
def Sections.ofText? (s : List Char) : Option Sections :=
  (Sections.reader s).map (·.1)

/-- A parameter is two words with one space between them. -/
def Parameter.ofText? (s : List Char) : Option Parameter :=
  match words ' ' s with
  | some [type, name] =>
    if type.isEmpty || name.isEmpty then none
    else some ⟨String.ofList type, String.ofList name⟩
  | _ => none

/-- A parameter, or a rejection that cites the whole text. -/
def Parameter.read (s : List Char) : Except Rejection Parameter :=
  match Parameter.ofText? s with
  | some p => .ok p
  | none => .error (.parameter (String.ofList s))

/-- The parameters stand between commas, with blank characters around each. A blank list has no
parameters. -/
def Parameter.readList (s : List Char) : Except Rejection (List Parameter) :=
  let s := Text.trim s
  if s.isEmpty then .ok []
  else
    match words ',' s with
    | none => .error (.parameter (String.ofList s))
    | some pieces => pieces.mapM fun piece => Parameter.read (Text.trim piece)

def dropEmptyEnd (ws : List (List Char)) : List (List Char) :=
  (ws.reverse.dropWhile List.isEmpty).reverse

/-- A header has two or three words. -/
def Header.ofWords? : List (List Char) → Option Header
  | [returnType, name] => some ⟨none, String.ofList returnType, String.ofList name⟩
  | [modifier, returnType, name] =>
    some ⟨some (String.ofList modifier), String.ofList returnType, String.ofList name⟩
  | _ => none

/-- The words of a header have one space between them, and any number of spaces may follow the
last. -/
def Header.ofText? (s : List Char) : Option Header :=
  (words ' ' s).bind fun ws =>
    let ws := dropEmptyEnd ws
    if ws.any List.isEmpty then none else Header.ofWords? ws

/-- A header, or a rejection that cites the whole text. -/
def Header.read (s : List Char) : Except Rejection Header :=
  match Header.ofText? s with
  | some h => .ok h
  | none => .error (.header (String.ofList s))

namespace Signature

def read (s : String) : Reading :=
  match Sections.ofText? s.toList with
  | none => ⟨[], .error (.header s)⟩
  | some parts =>
    let divided := .sections (String.ofList parts.header) (String.ofList parts.parameters)
    match Parameter.readList parts.parameters with
    | .error e => ⟨[divided, .rejectedParameter e.text], .error e⟩
    | .ok parameters =>
      match Header.read parts.header with
      | .error e => ⟨[divided, .rejectedHeader e.text], .error e⟩
      | .ok h => ⟨[divided], .ok ⟨h.modifier, h.returnType, h.name, parameters⟩⟩

/-- The signature that a text denotes, or why it denotes none. -/
def parse (s : String) : Except Rejection Signature :=
  (read s).result

def resultText : Except Rejection Signature → String
  | .ok m => m.render
  | .error e => e.text

/-- The result of reading the text of a result. -/
def reparse (r : Except Rejection Signature) : Except Rejection Signature :=
  parse (resultText r)

end Signature

end Signatures
