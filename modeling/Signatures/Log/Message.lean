import Signatures.Log.Record
import Signatures.Signature.Reading
import Signatures.Splitter.Basic

/-!
# What is logged

The events of reading a signature, and the start of a split, as log records.
-/

namespace Signatures

open Text

namespace Event

def level : Event → Log.Level
  | sections .. => .trace
  | rejectedParameter _ => .debug
  | rejectedHeader _ => .debug

def message : Event → String
  | sections .. => "split signature at parentheses"
  | rejectedParameter _ => "rejected argument"
  | rejectedHeader _ => "rejected method header"

def fields : Event → List (String × String)
  | sections header parameters => [("header", header), ("arguments", parameters)]
  | rejectedParameter text => [("text", text)]
  | rejectedHeader text => [("text", text)]

/-- The log record of an event. Its values are quoted. -/
def record (e : Event) : Log.Record where
  level := e.level
  target := "methodsig::parse"
  message := e.message
  fields := e.fields.map fun (name, value) => (name, (Layout.text value).render .oneLine)

end Event

/-- The log record of a split, with the delimiters as they are given. -/
def Log.Record.splitting (mode : Mode) (ds : List String) : Log.Record where
  level := .debug
  target := "methodsig"
  message := "splitting"
  fields :=
    [("mode", mode.name), ("delimiters", (Layout.list (ds.map Layout.text)).render .oneLine)]

end Signatures
