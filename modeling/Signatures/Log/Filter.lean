import Signatures.Log.Directive
import Signatures.Log.Record

/-!
# Log filters

A filter is a list of directives. Of those that apply to a record the most specific decides: the one
with the longest scope, then the one that names a field, then the one whose field comes last in
alphabetical order, and of equals the last. A record to which none applies is not written. No record
arises in a span, so that directives for spans and for the values of fields in them never apply.

The text of a filter separates directives by commas.
-/

namespace Signatures.Log

namespace Record

/-- The names of what a record tells, its message included. -/
def fieldNames (r : Record) : List String :=
  "message" :: r.fields.map (·.1)

end Record

namespace Directive

/-- Whether a directive is about records outside of spans. -/
def isUnconditional (d : Directive) : Bool :=
  d.span.isNone && d.field.all fun f => !f.hasValue

def appliesTo (d : Directive) (r : Record) : Bool :=
  d.isUnconditional
    && d.scope.all (fun scope => scope.isPrefixOf r.target.toList)
    && d.field.all (fun f => r.fieldNames.contains (String.ofList f.name))

/-- Orders directives from the least specific to the most specific. -/
def compareSpecificity (a b : Directive) : Ordering :=
  (compare (a.scope.map List.length) (b.scope.map List.length)).then
    (compare (a.field.map (·.name)) (b.field.map (·.name)))

/-- The more specific of two directives, the second of equals. -/
def moreSpecific : Option Directive → Directive → Option Directive
  | some a, b => if compareSpecificity a b = .gt then some a else some b
  | none, b => some b

end Directive

structure Filter where
  directives : List Directive
deriving DecidableEq

namespace Filter

def uniform (threshold : Threshold) : Filter :=
  ⟨[⟨none, none, none, threshold⟩]⟩

def thresholdOf (f : Filter) (r : Record) : Threshold :=
  ((f.directives.filter (·.appliesTo r)).foldl Directive.moreSpecific none).bind (·.threshold)

def admits (f : Filter) (r : Record) : Bool :=
  (f.thresholdOf r).admits r.level

/-- Reads the text of a filter. Without any directive only errors are written. -/
def ofText? (s : String) : Option Filter :=
  match (s.toList.splitOn ',').filter (· ≠ []) with
  | [] => some (uniform (some .error))
  | items => (items.mapM Directive.ofText?).map (⟨·⟩)

/-- The filter for a number of requests for more detail. -/
def ofVerbosity : Nat → Filter
  | 0 => uniform (some .warn)
  | 1 => uniform (some .info)
  | 2 => uniform (some .debug)
  | _ => uniform (some .trace)

/-- A valid filter text takes precedence over the verbosity. -/
def select (text : Option String) (verbosity : Nat) : Filter :=
  (text.bind ofText?).getD (ofVerbosity verbosity)

end Filter

end Signatures.Log
