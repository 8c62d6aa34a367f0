import ComponentCrd.Text.Basic

/-! Directories and files, and how a path leads through them: from the root if it begins with a
slash, otherwise from the current directory. There are no links.
-/

namespace ComponentCrd.Source

/-- Why a file cannot be read or written. -/
inductive FileFault where
  | notFound
  | notDirectory
  | isDirectory
  | nameTooLong
  | nulByte
  | other (text : String)
deriving DecidableEq, Repr

/-- The wording of a fault, as the operating system has it. -/
def FileFault.message : FileFault → String
  | .notFound => "No such file or directory (os error 2)"
  | .notDirectory => "Not a directory (os error 20)"
  | .isDirectory => "Is a directory (os error 21)"
  | .nameTooLong => "File name too long (os error 36)"
  | .nulByte => "file name contained an unexpected NUL byte"
  | .other text => text

/-- A file with its bytes, or a directory with its entries. -/
inductive FileTree where
  | file (content : List UInt8)
  | directory (entries : List (String × FileTree))
deriving Repr, Inhabited

namespace FileTree

/-- The most bytes of the name of an entry. -/
def longestName : Nat := 255

/-- The fewest bytes of a path that is too long. -/
def pathLimit : Nat := 4096

/-- What stands under the names of entries, from the outermost on. -/
def at? (tree : FileTree) : List String → Option FileTree
  | [] => some tree
  | name :: rest =>
      match tree with
      | .file _ => none
      | .directory entries =>
          match entries.lookup name with
          | some entry => entry.at? rest
          | none => none

/-- The tree with something put under the names of entries; missing directories are made. -/
def put (tree : FileTree) (entry : FileTree) : List String → FileTree
  | [] => entry
  | name :: rest =>
      let entries :=
        match tree with
        | .file _ => []
        | .directory entries => entries
      let inner := ((entries.lookup name).getD (.directory [])).put entry rest
      .directory ((name, inner) :: entries.filter (·.1 != name))

/-- The parts of a path between its slashes. -/
def parts (path : String) : List String :=
  (Text.segments '/' path.toList).map String.ofList

/-- Whether a path begins at the root. -/
def isAbsolute (path : String) : Bool := path.toList.head? == some '/'

/-- Follows the parts of a path from a directory, given by the names that lead to it: an empty
part and one dot stay there, two dots go up, and everything else has to be an entry.
-/
def follow (tree : FileTree) (directory : List String) :
    List String → Except FileFault (List String)
  | [] => .ok directory
  | part :: rest =>
      match tree.at? directory with
      | none => .error .notFound
      | some (.file _) => .error .notDirectory
      | some (.directory entries) =>
          if part = "" ∨ part = "." then tree.follow directory rest
          else if part = ".." then tree.follow directory.dropLast rest
          else if longestName < part.utf8ByteSize then .error .nameTooLong
          else if (entries.lookup part).isSome then tree.follow (directory ++ [part]) rest
          else .error .notFound

/-- The faults that a path has by itself. -/
def checkPath (path : String) : Except FileFault Unit :=
  if path.toList.contains '\x00' then .error .nulByte
  else if path.isEmpty then .error .notFound
  else if pathLimit ≤ path.utf8ByteSize then .error .nameTooLong
  else .ok ()

/-- The bytes of the file at a path. -/
def read (tree : FileTree) (current : List String) (path : String) :
    Except FileFault (List UInt8) := do
  checkPath path
  let start := if isAbsolute path then [] else current
  match tree.at? (← tree.follow start (parts path)) with
  | some (.file content) => return content
  | some (.directory _) => throw .isDirectory
  | none => throw .notFound

/-- The entries of the directory that parts of a path lead to. -/
def entriesAt (tree : FileTree) (start : List String) (path : List String) :
    Except FileFault (List String × List (String × FileTree)) := do
  let place ← tree.follow start path
  match tree.at? place with
  | none => throw .notFound
  | some (.file _) => throw .notDirectory
  | some (.directory entries) => return (place, entries)

/-- The tree with the bytes in a new file at a path, or in place of those of the file there. A
path that ends in a slash or in dots cannot be that of a file.
-/
def write (tree : FileTree) (current : List String) (path : String) (content : List UInt8) :
    Except FileFault FileTree := do
  checkPath path
  let start := if isAbsolute path then [] else current
  let parts := parts path
  let named := (parts.reverse.dropWhile (· = "")).reverse
  let name := named.getLastD "."
  if name = "." ∨ name = ".." then
    let _ ← tree.follow start named
    throw .isDirectory
  let (place, entries) ← tree.entriesAt start named.dropLast
  if named.length < parts.length then
    throw .isDirectory
  if longestName < name.utf8ByteSize then
    throw .nameTooLong
  match entries.lookup name with
  | some (.directory _) => throw .isDirectory
  | _ => return tree.put (.file content) (place ++ [name])

end FileTree

end ComponentCrd.Source
