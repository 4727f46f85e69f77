/-!
# Files by path

The program only asks whether something stands at a path and what bytes are read from it. `Files` is
the answer for every path; whatever the system says when it does not read a file is handed on as it
is.

* `Files.has` and `Files.read` are the two questions. A file is read as text only if its bytes are
  UTF-8; that fault is the program's own (`ReadFault.notText`).
* `systemMessage` tells a failure of the system by its number.
* `Folder` is a small file system that gives such answers, with the usual reading of paths.
-/

namespace TableScript

/-! ## What the system answers -/

/-- The sentences of the system for what may keep a file from being read, by their numbers. -/
def systemSentences : List (Nat × String) := [
  (1, "Operation not permitted"),
  (2, "No such file or directory"),
  (5, "Input/output error"),
  (6, "No such device or address"),
  (13, "Permission denied"),
  (20, "Not a directory"),
  (21, "Is a directory"),
  (22, "Invalid argument"),
  (23, "Too many open files in system"),
  (24, "Too many open files"),
  (36, "File name too long"),
  (40, "Too many levels of symbolic links")]

/-- How the system tells a failure: its sentence and its number. -/
def systemMessage (number : Nat) : String :=
  (systemSentences.lookup number).getD ("Unknown error " ++ number.repr) ++
    " (os error " ++ number.repr ++ ")"

/-- What the system answers about a path: whether something is there, and the bytes that are read
from it, or the system's words for why there are none. -/
structure Entry where
  isThere : Bool
  bytes : Except String ByteArray

namespace Entry

def file (bytes : ByteArray) : Entry := ⟨true, .ok bytes⟩

def directory : Entry := ⟨true, .error (systemMessage 21)⟩

def missing : Entry := ⟨false, .error (systemMessage 2)⟩

/-- The way to the path leads through something that is no directory. -/
def insideFile : Entry := ⟨false, .error (systemMessage 20)⟩

def nameTooLong : Entry := ⟨false, .error (systemMessage 36)⟩

def nulInName : Entry := ⟨false, .error "file name contained an unexpected NUL byte"⟩

end Entry

/-- Why a file has no text. -/
inductive ReadFault where
  | system (message : String)
  | notText
  deriving DecidableEq

def ReadFault.message : ReadFault → String
  | .system message => message
  | .notText => "stream did not contain valid UTF-8"

/-- What stands at every path. -/
abbrev Files : Type := String → Entry

namespace Files

/-- Something stands at the path. -/
def has (files : Files) (path : String) : Bool := (files path).isThere

/-- The text of the file at the path. -/
def read (files : Files) (path : String) : Except ReadFault String :=
  match (files path).bytes with
  | .error message => .error (.system message)
  | .ok bytes =>
    match String.fromUTF8? bytes with
    | some text => .ok text
    | none => .error .notText

end Files

/-! ## A small file system -/

/-- A file system: the files, and the directories that are named on their own, by the names on the
way to them. A directory on the way to something is there without being named. -/
structure Folder where
  files : List (List String × ByteArray)
  directories : List (List String)

namespace Folder

/-- There is a directory at the place. -/
def hasDirectory (folder : Folder) (place : List String) : Bool :=
  place.isEmpty || folder.directories.any place.isPrefixOf ||
    folder.files.any fun f => place.isPrefixOf f.1

/-- What stands at a place of the folder. -/
def entryAt (folder : Folder) (place : List String) : Entry :=
  match folder.files.lookup place with
  | some bytes => .file bytes
  | none => if folder.hasDirectory place then .directory else .missing

/-- What stands outside the folder, which is in a directory that holds nothing else to go to. -/
def entryOutside (names : List String) : Entry :=
  if names.all fun name => name = "" ∨ name = "." ∨ name = ".." then .directory else .missing

/-- Along the names from a place on. Only a directory has anything inside; `.` stays and `..` goes
back, from the folder itself to the outside. -/
def walk (folder : Folder) (place : List String) : List String → Entry
  | [] => folder.entryAt place
  | name :: rest =>
    if (folder.files.lookup place).isSome then .insideFile
    else if !folder.hasDirectory place then .missing
    else if name = "" ∨ name = "." then walk folder place rest
    else if name = ".." then
      if place.isEmpty then entryOutside rest else walk folder place.dropLast rest
    else if 255 < name.utf8ByteSize then .nameTooLong
    else walk folder (place ++ [name]) rest

/-- The names of a path. -/
def names (path : String) : List String := path.splitOn "/"

/-- The folder as the current directory. Paths from the root lead nowhere. -/
def toFiles (folder : Folder) : Files := fun path =>
  if path.toList.contains '\x00' then .nulInName
  else if 4095 < path.utf8ByteSize then .nameTooLong
  else
    match names path with
    | [""] => .missing
    | "" :: _ => .missing
    | names => folder.walk [] names

end Folder

end TableScript
