import SchemaQuery.Files.Location

/-!
# Files

What a program can learn of files: the text at a location and the files in a directory, or why it
cannot have them. A tree of files answers in the same way as a disk.
-/

namespace SchemaQuery

/-- Why a file or a directory cannot be read. -/
inductive FileError where
  | notFound
  | denied
  | notDirectory
  | isDirectory
  | nameTooLong
  | nullInName
  /-- The content is not UTF-8. -/
  | notText
  deriving DecidableEq, Repr

/-- The text of the error. -/
def FileError.message : FileError → String
  | .notFound => "No such file or directory (os error 2)"
  | .denied => "Permission denied (os error 13)"
  | .notDirectory => "Not a directory (os error 20)"
  | .isDirectory => "Is a directory (os error 21)"
  | .nameTooLong => "File name too long (os error 36)"
  | .nullInName => "file name contained an unexpected NUL byte"
  | .notText => "stream did not contain valid UTF-8"

/-- The names in a directory, in no particular order, each with the text at it. -/
abbrev Listing := Except FileError (List (String × Except FileError String))

/-- What can be read at each location. -/
structure FileSystem where
  readText : String → Except FileError String
  readDirectory : String → Listing

/-- A file, with its text unless its content is not UTF-8, or a directory. -/
inductive FileTree where
  | file (text : Option String)
  | directory (entries : List (String × FileTree))

namespace FileTree

/-- The text of a file. -/
def text : FileTree → Except FileError String
  | .file (some text) => .ok text
  | .file none => .error .notText
  | .directory _ => .error .isDirectory

/-- The child of a directory. -/
def child (tree : FileTree) (name : String) : Except FileError FileTree :=
  match tree with
  | .file _ => .error .notDirectory
  | .directory entries =>
    if 255 < name.utf8ByteSize then .error .nameTooLong
    else match entries.find? (·.1 == name) with
      | some (_, child) => .ok child
      | none => .error .notFound

/-- What names lead to from a directory; `above` are the directories around it, the innermost
first. There is nothing outside of the outermost directory. -/
def walk (above : List FileTree) (tree : FileTree) : List String → Except FileError FileTree
  | [] => .ok tree
  | name :: rest =>
    match tree with
    | .file _ => .error .notDirectory
    | .directory _ =>
      if name.isEmpty || name == "." then walk above tree rest
      else if name == ".." then
        match above with
        | outer :: others => walk others outer rest
        | [] => .error .notFound
      else do
        let child ← tree.child name
        walk (tree :: above) child rest

/-- What is at a location, seen from a directory. -/
def locate (tree : FileTree) (location : String) : Except FileError FileTree :=
  if location.toList.contains '\x00' then .error .nullInName
  else if location.isEmpty || Location.isAbsolute location then .error .notFound
  else if 4095 < location.utf8ByteSize then .error .nameTooLong
  else walk [] tree (Location.names location)

/-- The tree as seen from its outermost directory. -/
def toFileSystem (tree : FileTree) : FileSystem where
  readText location := do (← tree.locate location).text
  readDirectory location := do
    match ← tree.locate location with
    | .directory entries => return entries.map fun (name, node) => (name, node.text)
    | .file _ => .error .notDirectory

end FileTree

end SchemaQuery
