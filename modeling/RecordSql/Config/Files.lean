import RecordSql.Error

/-!
# Files

Files are read through a function from paths to texts, so that nothing here depends on a disk. A
tree of files held in memory is one such function.
-/

namespace RecordSql

/-- A way to read the file at a path. -/
abbrev FileReader := String → Except FileError String

namespace FileReader

/-- Whether there is a file or a directory at a path. -/
def finds (files : FileReader) (path : String) : Bool :=
  match files path with
  | .error .missing | .error .notDirectory | .error .nameTooLong | .error .nullInName => false
  | _ => true

end FileReader

/-! ## Files in memory -/

/-- Files by the names on the way to them; the directories are those on the way to a file. A file
    that is no text has no content. -/
structure FileTree where
  files : List (List String × Option String) := []

namespace FileTree

/-- What a path leads to. -/
inductive Place
  | directory (names : List String)
  | file (content : Option String)
  /-- A directory that contains the tree. -/
  | outside

/-- The place behind a name in the tree, if there is one. -/
def at? (t : FileTree) (names : List String) : Option Place :=
  match t.files.find? fun f => f.1 == names with
  | some (_, content) => some (.file content)
  | none =>
    if names.isEmpty || t.files.any fun f => names.isPrefixOf f.1 then some (.directory names)
    else none

/-- What is behind a name at a place, if there is anything. -/
def child? (t : FileTree) (name : String) : Place → Option Place
  | .directory names => t.at? (names ++ [name])
  | .file _ | .outside => none

/-- The directory that a place is in. -/
def Place.parent : Place → Place
  | .directory (name :: names) => .directory (name :: names).dropLast
  | _ => .outside

/-- The greatest number of bytes in a name. -/
def maxNameSize : Nat := 255

/-- The greatest number of bytes in a path. -/
def maxPathSize : Nat := 4095

/-- One step of a path. Empty steps and single points lead nowhere else, but only a directory has
    them. -/
def step (t : FileTree) (name : String) (place : Place) : Except FileError Place :=
  if place matches .file _ then .error .notDirectory
  else if name.isEmpty || name == "." then .ok place
  else if name == ".." then .ok place.parent
  else if maxNameSize < name.utf8ByteSize then .error .nameTooLong
  else (t.child? name place).elim (.error .missing) .ok

/-- The names between the slashes of a path. -/
def splitPath (cs : List Char) : List (List Char) :=
  cs.foldr (fun c parts =>
    match parts with
    | part :: rest => if c = '/' then [] :: part :: rest else (c :: part) :: rest
    | [] => []) [[]]

/-- What the path leads to, from the root of the tree. -/
def resolve (t : FileTree) (path : String) : Except FileError Place :=
  if path.isEmpty then .error .missing
  else if path.toList.contains '\x00' then .error .nullInName
  else if maxPathSize < path.utf8ByteSize then .error .nameTooLong
  else
    let start : Place := if path.toList.head? = some '/' then .outside else .directory []
    ((splitPath path.toList).map String.ofList).foldlM (fun place name => t.step name place) start

/-- Reads the file at a path. -/
def read (t : FileTree) : FileReader := fun path => do
  match ← t.resolve path with
  | .file (some content) => return content
  | .file none => throw .notText
  | .directory _ | .outside => throw .isDirectory

end FileTree

end RecordSql
