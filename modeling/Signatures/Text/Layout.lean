import Signatures.Text.Quoted

/-!
# Layouts of structured values

A layout writes a value with its parts in one of two styles: on one line, or with every part on a
line of its own, four spaces deeper than the brackets around it and followed by a comma. Brackets
without parts touch each other in the second style too.
-/

namespace Signatures.Text

/-- How the parts of a value are arranged. The depth of an indented value is the number of
brackets around it. -/
inductive Style where
  | oneLine
  | indented (depth : Nat)

/-- The written form of a value in either style. -/
def Layout : Type := Style → List Char

namespace Layout

def render (layout : Layout) (style : Style) : String :=
  String.ofList (layout style)

def word (w : String) : Layout := fun _ => w.toList

def text (s : String) : Layout := fun _ => Quoted.text s.toList

def character (c : Char) : Layout := fun _ => Quoted.character c

def indentation (depth : Nat) : List Char :=
  List.replicate (4 * depth) ' '

/-- Parts between two brackets. On one line, `margin` stands inside both brackets. -/
def bracketed (opening closing margin : List Char) (parts : List Layout) : Layout
  | .oneLine =>
    opening ++ margin ++ [',', ' '].intercalate (parts.map (· .oneLine)) ++ margin ++ closing
  | .indented depth =>
    if parts.isEmpty then opening ++ closing
    else
      let inner := depth + 1
      opening ++ ['\n']
        ++ parts.flatMap (fun part => indentation inner ++ part (.indented inner) ++ [',', '\n'])
        ++ indentation depth ++ closing

def field (name : String) (value : Layout) : Layout :=
  fun style => name.toList ++ [':', ' '] ++ value style

/-- A name with the named parts that belong to it. -/
def record (name : String) (fields : List (String × Layout)) : Layout :=
  bracketed (name.toList ++ [' ', '\x7b']) ['\x7d'] [' ']
    (fields.map fun (name, value) => field name value)

def applied (name : String) (value : Layout) : Layout :=
  bracketed (name.toList ++ ['(']) [')'] [] [value]

def list (parts : List Layout) : Layout :=
  bracketed ['['] [']'] [] parts

def set (parts : List Layout) : Layout :=
  bracketed ['\x7b'] ['\x7d'] [] parts

def optionalText : Option String → Layout
  | none => word "None"
  | some s => applied "Some" (text s)

end Layout

end Signatures.Text
