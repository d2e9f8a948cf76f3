import Signatures.CommandLine.Command

/-!
# Reading a command line

A word that starts with a hyphen names options, in full after two hyphens or by letters after one; a
hyphen alone is an ordinary word, and two hyphens alone end the options. The value of a setting
is attached to it or is the next ordinary word. A value that is not attached is looked at only when
the next option or ordinary word comes, or at the end, so that an unknown option is reported
before a missing value.
-/

namespace Signatures.CommandLine

inductive Word where
  | ordinary
  | endOfOptions
  | long (name : String) (value : Option String)
  | letters (cs : List Char)

def Word.ofText (s : String) : Word :=
  match s.toList with
  | ['-'] => ordinary
  | ['-', '-'] => endOfOptions
  | '-' :: '-' :: cs =>
    match cs.span (· ≠ '=') with
    | (name, '=' :: value) => long (String.ofList name) (some (String.ofList value))
    | (name, _) => long (String.ofList name) none
  | '-' :: cs => letters cs
  | _ => ordinary

inductive Choice where
  | flag (f : Flag)
  | setting (s : Setting)

def Topic.long? : Topic → String → Option Choice
  | _, "verbose" => some (.flag .verbose)
  | _, "help" => some (.flag .help)
  | program, "version" => some (.flag .version)
  | parse, "file" => some (.setting .file)
  | split, "delimiter" => some (.setting .delimiter)
  | split, "whole" => some (.flag .whole)
  | _, _ => none

def Topic.letter? : Topic → Char → Option Choice
  | _, 'v' => some (.flag .verbose)
  | _, 'h' => some (.flag .help)
  | program, 'V' => some (.flag .version)
  | parse, 'f' => some (.setting .file)
  | split, 'd' => some (.setting .delimiter)
  | _, _ => none

/-- What has been read of a command line. The pending setting is not yet looked at; it may still
wait for its value. -/
structure Progress where
  topic : Topic
  verbosity : Nat := 0
  whole : Bool := false
  file : Option String := none
  delimiters : List String := []
  words : List String := []
  pending : Option (Setting × Option String) := none

namespace Progress

def fail {α : Type} (e : UsageError) : Except Stop α :=
  .error (.usage e)

/-- Looks at the pending setting. A file is named at most once, by a name that is not empty. -/
def settle (p : Progress) : Except Stop Progress :=
  match p.pending with
  | none => .ok p
  | some (setting, none) => fail (.valueMissing setting)
  | some (.file, some name) =>
    if p.file.isSome then fail (.repeatedSetting .file)
    else if name = "" then fail (.valueMissing .file)
    else .ok { p with file := some name, pending := none }
  | some (.delimiter, some d) =>
    .ok { p with delimiters := p.delimiters ++ [d], pending := none }

def flag (f : Flag) (p : Progress) : Except Stop Progress := do
  let p ← p.settle
  match f with
  | .verbose => return { p with verbosity := p.verbosity + 1 }
  | .whole => if p.whole then fail (.repeatedFlag .whole) else return { p with whole := true }
  | .help => .error (.help p.topic)
  | .version => .error .version

/-- A setting whose value may follow as the next word. -/
def expect (s : Setting) (p : Progress) : Except Stop Progress := do
  let p ← p.settle
  return { p with pending := some (s, none) }

def assign (s : Setting) (value : String) (p : Progress) : Except Stop Progress := do
  let p ← p.settle
  settle { p with pending := some (s, some value) }

/-- Options by their letters. What follows the letter of a setting is its value, without an equals
sign at its start. -/
def letters : List Char → Progress → Except Stop Progress
  | [], p => .ok p
  | c :: rest, p =>
    match p.topic.letter? c with
    | none => fail (.unexpectedArgument (String.ofList ['-', c]))
    | some (.flag f) => do letters rest (← p.flag f)
    | some (.setting s) =>
      match rest with
      | [] => p.expect s
      | '=' :: value => p.assign s (String.ofList value)
      | value => p.assign s (String.ofList value)

def long (name : String) (value : Option String) (p : Progress) : Except Stop Progress :=
  match p.topic.long? name, value with
  | none, _ => fail (.unexpectedArgument ("--" ++ name))
  | some (.flag f), none => p.flag f
  | some (.flag f), some value => fail (.unexpectedValue f value)
  | some (.setting s), none => p.expect s
  | some (.setting s), some value => p.assign s value

/-- An ordinary word that is no value. A text to split is given once. -/
def word (w : String) (p : Progress) : Except Stop Progress :=
  if p.topic = .split ∧ p.words ≠ [] then fail (.unexpectedArgument w)
  else do
    let p ← p.settle
    return { p with words := p.words ++ [w] }

/-- An ordinary word, which is the value of a setting that waits for one. -/
def wordOrValue (w : String) (p : Progress) : Except Stop Progress :=
  match p.pending with
  | some (s, none) => .ok { p with pending := some (s, some w) }
  | _ => p.word w

def arguments : List String → Progress → Except Stop Progress
  | [], p => p.settle
  | w :: rest, p =>
    match Word.ofText w with
    | .ordinary => do arguments rest (← p.wordOrValue w)
    | .endOfOptions => do settle (← rest.foldlM (fun p w => p.word w) p)
    | .long name value => do arguments rest (← p.long name value)
    | .letters cs => do arguments rest (← p.letters cs)

end Progress

def Progress.start (topic : Topic) : Progress :=
  { topic }

def parseCommand (ws : List String) : Except Stop Invocation := do
  let p ← Progress.arguments ws (.start .parse)
  return ⟨p.verbosity, .parse p.words p.file⟩

/-- The text to split, with one delimiter at least. -/
def splitCommand (ws : List String) : Except Stop Invocation := do
  let p ← Progress.arguments ws (.start .split)
  match p.words, p.delimiters with
  | [source], _ :: _ =>
    let mode := if p.whole then Mode.delimiters else .characters
    return ⟨p.verbosity, .split source p.delimiters mode⟩
  | _, _ => .error (.usage .argumentsMissing)

def Topic.ofCommand? : String → Option Topic
  | "parse" => some parse
  | "split" => some split
  | "help" => some help
  | _ => none

/-- A request for help on a command. No command has commands of its own. -/
def helpRequest : List String → Stop
  | [] => .help .program
  | w :: rest =>
    match Topic.ofCommand? w, rest with
    | none, _ => .usage (.unknownCommand w)
    | some topic, [] => .help topic
    | some _, next :: _ => .usage (.unknownCommand next)

/-- A command with the requests for more detail that stand before its name, unless it has its
own. -/
def Invocation.inherit (verbosity : Nat) (i : Invocation) : Invocation :=
  if i.verbosity = 0 then { i with verbosity } else i

def dispatch (verbosity : Nat) (name : String) (rest : List String) : Except Stop Invocation :=
  match Topic.ofCommand? name with
  | some .parse => (parseCommand rest).map (·.inherit verbosity)
  | some .split => (splitCommand rest).map (·.inherit verbosity)
  | some _ => .error (helpRequest rest)
  | none => .error (.usage (.unknownCommand name))

/-- The options of the program up to the name of a command, which cannot follow the end of the
options. -/
def program : List String → Progress → Except Stop Invocation
  | [], p => Progress.fail (if p.verbosity = 0 then .noArguments else .noCommand)
  | w :: rest, p =>
    match Word.ofText w with
    | .ordinary => dispatch p.verbosity w rest
    | .endOfOptions =>
      match rest with
      | [] => program [] p
      | w :: _ =>
        Progress.fail <|
          if (Topic.ofCommand? w).isSome then .unexpectedArgument w else .unknownCommand w
    | .long name value => do program rest (← p.long name value)
    | .letters cs => do program rest (← p.letters cs)

def read (args : List String) : Except Stop Invocation :=
  program args (.start .program)

end Signatures.CommandLine
