import Signatures.Log.Record
import Signatures.Log.Pattern
import Signatures.Text.Alphanumeric
import Signatures.Text.Basic

/-!
# Directives of a log filter

A directive gives a threshold to some of the records. It may name a scope with which their targets
begin, and in square brackets a span in which they arise and in braces a field that they have. It is
written as scope, brackets and, after an equals sign, threshold; each part may be missing, but a
directive of one word that names a threshold gives it to all records. Without a threshold everything
is traced.

The text of a directive is read without the blank characters around it. Its parts are cut at the
offsets found there, but from the text with the blanks, and the last part goes on to its end. So
only a directive without blanks around it means what it seems to say.
-/

namespace Signatures.Log

open Text

/-- A field that a record has to have, and whether its value is described as well. -/
structure FieldCondition where
  name : List Char
  hasValue : Bool
deriving DecidableEq

structure Directive where
  scope : Option (List Char)
  span : Option (List Char)
  field : Option FieldCondition
  threshold : Threshold
deriving DecidableEq

/-- A field is described by its name and, after an equals sign, by its value. -/
def FieldCondition.ofText? (s : List Char) : Option FieldCondition :=
  match s.splitOn '=' with
  | [] => none
  | [name] => if name.isEmpty then none else some ⟨name, false⟩
  | name :: value :: _ => if Pattern.isValid value then some ⟨name, true⟩ else none

namespace Directive

def traceAll : Directive := ⟨none, none, none, some .trace⟩

/-- A part of a directive, with the offset at which it starts. -/
inductive Part where
  | start
  | scope (first : Nat)
  | span (first : Nat)
  | field (first : Nat)
  | afterField
  | afterSpan
  | threshold (first : Nat)

def isScopeStart (c : Char) : Bool :=
  isAlphanumeric c || c = '_' || c = ':' || c = '-'

def step (item : List Char) (d : Directive) (offset : Nat) (c : Char) :
    Part → Option (Part × Directive)
  | .start =>
    if c = '[' then some (.span (offset + 1), d)
    else if isScopeStart c then some (.scope offset, d)
    else none
  | .scope first =>
    if c = '=' then do
      let scope ← sliceBytes? item first offset
      return (.threshold (offset + 1), { d with scope })
    else if c = '[' then do
      let scope ← sliceBytes? item first offset
      return (.span (offset + 1), { d with scope })
    else some (.scope first, d)
  | .span first =>
    if c = ']' then do
      let span ← sliceBytes? item first offset
      return (.afterSpan, { d with span })
    else if c = '\x7b' then do
      let span ← sliceBytes? item first offset
      return (.field (offset + 1), { d with span := if span.isEmpty then none else some span })
    else some (.span first, d)
  | .field first =>
    if c = '\x7d' then do
      let text ← sliceBytes? item first offset
      let field ← FieldCondition.ofText? text
      return (.afterField, { d with field })
    else some (.field first, d)
  | .afterField => if c = ']' then some (.afterSpan, d) else none
  | .afterSpan => if c = '=' then some (.threshold (offset + 1), d) else none
  | .threshold first => some (.threshold first, d)

def finish (item : List Char) (d : Directive) : Part → Option Directive
  | .scope first => do
    let word ← dropBytes? first item
    match Threshold.ofName? word with
    | some threshold => return { d with threshold }
    | none => return { d with scope := some word }
  | .threshold first => do
    let name ← dropBytes? first item
    if name.isEmpty then return d
    else (Threshold.ofName? name).map fun threshold => { d with threshold }
  | .afterSpan => some d
  | _ => none

def readFrom (item : List Char) (part : Part) (d : Directive) (offset : Nat) :
    List Char → Option Directive
  | [] => finish item d part
  | c :: rest => do
    let (part, d) ← step item d offset c part
    readFrom item part d (offset + c.utf8Size) rest

def ofText? (item : List Char) : Option Directive :=
  readFrom item .start traceAll 0 (trim item)

end Directive

end Signatures.Log
