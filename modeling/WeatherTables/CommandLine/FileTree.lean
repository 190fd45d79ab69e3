import WeatherTables.Text.Pieces
import WeatherTables.Text.Search

/-!
# Files by path

Why a file cannot be read, and a tree of files that answers for every path. A path is walked one
name after the other; only a folder can be left by a further name, so a file with anything behind
it, be it a single slash, is no folder rather than missing.
-/

set_option autoImplicit false

namespace WeatherTables

/-- Why a file cannot be read. -/
inductive FileError where
  | missing
  | denied
  | notAFolder
  | isFolder
  | nameTooLong
  | notText
  | other (reason : String)
  deriving DecidableEq, Repr

/-- The reason in the words of the operating system. -/
def FileError.message : FileError → String
  | .missing => "No such file or directory (os error 2)"
  | .denied => "Permission denied (os error 13)"
  | .notAFolder => "Not a directory (os error 20)"
  | .isFolder => "Is a directory (os error 21)"
  | .nameTooLong => "File name too long (os error 36)"
  | .notText => "stream did not contain valid UTF-8"
  | .other reason => reason

/-- The text of a file, or why it cannot be read. -/
abbrev FileReader := String → Except FileError String

/-- A place in a tree: the names on the way to it from the top. -/
abbrev Place := List String

/-- Files, and the folder where a path begins that does not begin at the top. Every place on the
way to a file or to that folder is a folder. -/
structure FileTree where
  here : Place
  files : List (Place × String)
  deriving DecidableEq, Repr

namespace FileTree

/-- The bytes that one name may have. -/
def nameLimit : Nat := 255

/-- The bytes that a path must stay below. -/
def pathLimit : Nat := 4096

/-- The text of the file at a place. -/
def file? (t : FileTree) (place : Place) : Option String :=
  (t.files.find? (·.1 = place)).map (·.2)

/-- Whether there is a folder at a place. -/
def isFolder (t : FileTree) (place : Place) : Bool :=
  place.isPrefixOf t.here ||
    t.files.any fun file => place.isPrefixOf file.1 && decide (place ≠ file.1)

/-- The place that a name leads to. No name and `.` stay, and `..` leads to the folder around, which
at the top is the top itself. -/
def step (t : FileTree) (place : Place) (name : String) : Except FileError Place :=
  if t.isFolder place = false then .error .notAFolder
  else if name = "" ∨ name = "." then .ok place
  else if name = ".." then .ok place.dropLast
  else if nameLimit < name.utf8ByteSize then .error .nameTooLong
  else if t.isFolder (place ++ [name]) ∨ (t.file? (place ++ [name])).isSome then
    .ok (place ++ [name])
  else .error .missing

/-- The place that names lead to, one after the other. -/
def walk (t : FileTree) (place : Place) (names : List String) : Except FileError Place :=
  names.foldlM t.step place

/-- The names in a path. -/
def names (path : String) : List String :=
  (Text.pieces (· = '/') path.toList).map String.ofList

/-- The text of the file that a path leads to. -/
def read (t : FileTree) : FileReader := fun path => do
  if path = "" then .error .missing
  else if pathLimit ≤ path.utf8ByteSize then .error .nameTooLong
  else
    let place ← t.walk (if Text.startsWith "/" path then [] else t.here) (names path)
    match t.file? place with
    | some text => .ok text
    | none => .error .isFolder

/-- A way in two parts is walked part by part. -/
theorem walk_append (t : FileTree) (place : Place) (first later : List String) :
    t.walk place (first ++ later) = t.walk place first >>= (t.walk · later) := by
  simp [walk, List.foldlM_append]

/-- Nothing leads on from a file. -/
theorem step_of_not_isFolder {t : FileTree} {place : Place} (h : t.isFolder place = false)
    (name : String) : t.step place name = .error .notAFolder := by
  simp [step, h]

end FileTree

end WeatherTables
