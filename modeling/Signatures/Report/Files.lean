/-!
# Files

A file is read by its path, or there is a reason why it cannot be read. In a tree of directories, a
path is followed name by name; every name but the last, and the last too when a slash follows, has
to stand for a directory.
-/

namespace Signatures

inductive ReadFailure where
  | notFound
  | notDirectory
  | isDirectory
  | nameTooLong
  | notText
  | other (reason : String)
deriving DecidableEq

def ReadFailure.reason : ReadFailure → String
  | notFound => "No such file or directory (os error 2)"
  | notDirectory => "Not a directory (os error 20)"
  | isDirectory => "Is a directory (os error 21)"
  | nameTooLong => "File name too long (os error 36)"
  | notText => "stream did not contain valid UTF-8"
  | other reason => reason

/-- The bytes of a file by its path. -/
abbrev Files : Type := String → Except ReadFailure ByteArray

inductive Entry where
  | directory
  | file (bytes : ByteArray)

/-- A tree of directories. Its entries have the names that lead to them from the root, and `current`
are the names that lead to the current directory. -/
structure Tree where
  entries : List (List String × Entry)
  current : List String

namespace Tree

/-- The entry at a place. The root and whatever leads to an entry are directories. -/
def find? (t : Tree) (place : List String) : Option Entry :=
  match t.entries.lookup place with
  | some entry => some entry
  | none =>
    if place.isEmpty || t.entries.any (fun (names, _) => place.isPrefixOf names) then
      some .directory
    else none

/-- The names of a path, one of them empty wherever two slashes meet or one ends the path. -/
def namesOf (path : String) : List String :=
  (path.toList.splitOn '/').map String.ofList

def follow (t : Tree) (place : List String) (name : String) : Except ReadFailure (List String) :=
  match t.find? place with
  | none => .error .notFound
  | some (.file _) => .error .notDirectory
  | some .directory =>
    if name = "" ∨ name = "." then .ok place
    else if name = ".." then .ok place.dropLast
    else if 255 < name.utf8ByteSize then .error .nameTooLong
    else
      let place := place ++ [name]
      if (t.find? place).isSome then .ok place else .error .notFound

/-- The bytes of a file in the tree. A path has fewer than 4096 bytes. -/
def read (t : Tree) : Files := fun path => do
  if 4096 ≤ path.utf8ByteSize then .error .nameTooLong
  let place ← (namesOf path).foldlM t.follow (if path.startsWith '/' then [] else t.current)
  match t.find? place with
  | some (.file bytes) => return bytes
  | some .directory => .error .isDirectory
  | none => .error .notFound

end Tree

end Signatures
