/-!
# Locations of files

Locations are texts with slashes between names. They are joined and taken apart as they are written:
nothing is normalised.
-/

namespace SchemaQuery.Location

/-- The parts of a text between slashes; there is always at least one. -/
def splitSlashes : List Char → List (List Char)
  | [] => [[]]
  | c :: cs =>
    if c = '/' then [] :: splitSlashes cs
    else match splitSlashes cs with
      | first :: others => (c :: first) :: others
      | [] => [[c]]

/-- The names between the slashes. -/
def names (location : String) : List String :=
  (splitSlashes location.toList).map String.ofList

/-- The location starts at the root. -/
def isAbsolute (location : String) : Bool := location.toList.head? == some '/'

/-- The location of something within a directory. -/
def join (directory name : String) : String :=
  if isAbsolute name || directory.isEmpty then name
  else if directory.toList.getLast? == some '/' then directory ++ name
  else directory ++ "/" ++ name

/-- The name says nothing: it is empty or means the directory itself. -/
def isIdle (name : String) : Bool := name.isEmpty || name == "."

/-- Removes idle names from the end; a first name `.` stays. -/
def trimIdle : List String → List String
  | [] => []
  | first :: rest =>
    let kept := (rest.reverse.dropWhile isIdle).reverse
    if kept.isEmpty && first.isEmpty then [] else first :: kept

/-- The directory of a location. -/
def parent (location : String) : String :=
  let directory := "/".intercalate (trimIdle (trimIdle (names location)).dropLast)
  if directory.isEmpty && isAbsolute location then "/" else directory

/-- What follows the last dot of a name; none if that dot is the first character. -/
def extension? (name : String) : Option String :=
  let ending := name.toList.reverse.takeWhile (· != '.')
  if ending.length + 1 < name.toList.length then some (String.ofList ending.reverse) else none

end SchemaQuery.Location
