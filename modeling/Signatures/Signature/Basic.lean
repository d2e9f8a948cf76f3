import Signatures.Text.Layout

/-!
# Signatures

A signature is the head of a method declaration: an optional access modifier, a return type, a name
and the parameters. It is written with single spaces, the parameters between parentheses. Its layout
is a record of all its parts.

A text that is no signature is rejected for one of its parameters, or for what stands before the
parentheses. A rejection cites the offending text.
-/

namespace Signatures

open Text

structure Parameter where
  type : String
  name : String
deriving DecidableEq

/-- What stands before the parentheses of a signature. -/
structure Header where
  modifier : Option String
  returnType : String
  name : String
deriving DecidableEq

structure Signature where
  modifier : Option String
  returnType : String
  name : String
  parameters : List Parameter
deriving DecidableEq

/-- The part of a text that makes it no signature. -/
inductive Rejection where
  | parameter (text : String)
  | header (text : String)
deriving DecidableEq

/-- The words of a header, in the order in which they are written. -/
def Header.toList (h : Header) : List String :=
  h.modifier.toList ++ [h.returnType, h.name]

namespace Parameter

/-- The type and the name with a space between them. -/
def render (p : Parameter) : String :=
  p.type ++ " " ++ p.name

def layout (p : Parameter) : Layout :=
  .record "Argument" [("typ", .text p.type), ("name", .text p.name)]

end Parameter

namespace Signature

/-- The words of a signature that stand before its parentheses. -/
def headerWords (m : Signature) : List String :=
  Header.toList ⟨m.modifier, m.returnType, m.name⟩

/-- The words before the parentheses, and the parameters in them. -/
def render (m : Signature) : String :=
  " ".intercalate m.headerWords
    ++ "(" ++ ", ".intercalate (m.parameters.map Parameter.render) ++ ")"

def layout (m : Signature) : Layout :=
  .record "MethodSignature"
    [("access_modifier", .optionalText m.modifier),
     ("return_type", .text m.returnType),
     ("name", .text m.name),
     ("arguments", .list (m.parameters.map Parameter.layout))]

end Signature

namespace Rejection

def text : Rejection → String
  | parameter text => text
  | header text => text

def message : Rejection → String
  | parameter text => "invalid argument description: `" ++ text ++ "`"
  | header text => "invalid method signature: `" ++ text ++ "`"

def kind : Rejection → String
  | parameter _ => "Argument"
  | header _ => "Header"

/-- The kind with the text that is cited. -/
def layout (e : Rejection) : Layout :=
  .applied e.kind (.text e.text)

end Rejection

end Signatures
