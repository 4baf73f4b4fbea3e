import ClassDiagram.Text.Utf8

/-!
# Files

A file system as far as a program sees it: folders, files with their bytes, and the folder
in which relative paths start. A path is followed name by name from there, and every name but
the last has to be that of a folder. A slash behind the last name says that it is a folder's,
too, and a file is neither read nor made under such a path. Names and paths have a greatest
length, which counts bytes.
-/

namespace ClassDiagram

/-- Why a file cannot be opened, read or written. -/
inductive FileFault where
  | missing
  | isFolder
  | notFolder
  | nameTooLong
  | invalidName
  /-- The bytes are no text. -/
  | notText
  | other (description : String)
deriving DecidableEq

/-- What people are told. -/
def FileFault.message : FileFault → String
  | missing => "No such file or directory (os error 2)"
  | isFolder => "Is a directory (os error 21)"
  | notFolder => "Not a directory (os error 20)"
  | nameTooLong => "File name too long (os error 36)"
  | invalidName => "file name contained an unexpected NUL byte"
  | notText => "stream did not contain valid UTF-8"
  | other description => description

/-- The folders and files, each under the names on the way to it from the root. -/
structure FileSystem where
  folders : List (List String) := [[]]
  files : List (List String × List UInt8) := []
  /-- The folder in which relative paths start. -/
  here : List String := []

/-- Where a path leads. -/
inductive Place where
  | folder (names : List String)
  | file (names : List String) (content : List UInt8)
  /-- To nothing yet, in a folder that there is. -/
  | vacant (names : List String)

/-- A path, taken apart. -/
structure Path where
  /-- The path starts at the root and not in the folder where the program works. -/
  fromRoot : Bool
  names : List String
  /-- The path ends in a slash. -/
  asFolder : Bool

/-- The text between slashes, piece by piece. -/
def slashPieces : List Char → List (List Char)
  | [] => [[]]
  | c :: rest =>
    if c = '/' then [] :: slashPieces rest
    else match slashPieces rest with
      | first :: others => (c :: first) :: others
      | [] => [[c]]

/-- The names on a path; slashes next to each other count as one. -/
def pathNames (path : String) : List String :=
  ((slashPieces path.toList).map String.ofList).filter (· ≠ "")

/-- Takes the text of a path apart. -/
def Path.ofText (text : String) : Path where
  fromRoot := text.toList.head? = some '/'
  names := pathNames text
  asFolder := text.toList.getLast? = some '/'

/-- The number of bytes that a name may have. -/
def longestName : Nat := 255

/-- The number of bytes that a path may have. -/
def longestPath : Nat := 4095

namespace FileSystem

/-- Where one name leads from a folder. The name of a file or folder is looked up, and one that
is too long for any cannot be; a dot leads nowhere else, two dots lead back. -/
def step (files : FileSystem) (folder : List String) (name : String) : Except FileFault Place :=
  if name = "." then .ok (.folder folder)
  else if name = ".." then .ok (.folder folder.dropLast)
  else if longestName < name.utf8ByteSize then .error .nameTooLong
  else
    let names := folder ++ [name]
    if files.folders.contains names then .ok (.folder names)
    else match files.files.lookup names with
      | some content => .ok (.file names content)
      | none => .ok (.vacant names)

/-- Follows names from a folder to a folder. -/
def enter (files : FileSystem) (folder : List String) : List String → Except FileFault (List String)
  | [] => .ok folder
  | name :: rest =>
    match files.step folder name with
    | .ok (.folder names) => files.enter names rest
    | .ok (.file _ _) => .error .notFolder
    | .ok (.vacant _) => .error .missing
    | .error fault => .error fault

/-- Follows a path up to its last name: the folder that this name is to be looked up in, and
the path. -/
def approach (files : FileSystem) (text : String) : Except FileFault (List String × Path) :=
  if text.toList.contains '\x00' then .error .invalidName
  else if longestPath < text.utf8ByteSize then .error .nameTooLong
  else if text = "" then .error .missing
  else
    let path := Path.ofText text
    match files.enter (if path.fromRoot then [] else files.here) path.names.dropLast with
    | .ok folder => .ok (folder, path)
    | .error fault => .error fault

/-- Opens what a path leads to: the bytes of a file, or nothing to be read of a folder. -/
def open? (files : FileSystem) (text : String) : Except FileFault (Option (List UInt8)) :=
  match files.approach text with
  | .error fault => .error fault
  | .ok (folder, path) =>
    match files.step folder (path.names.getLast?.getD ".") with
    | .ok (.file _ content) => if path.asFolder then .error .notFolder else .ok (some content)
    | .ok (.folder _) => .ok none
    | .ok (.vacant _) => .error .missing
    | .error fault => .error fault

/-- The bytes of the file at a path. -/
def read (files : FileSystem) (path : String) : Except FileFault (List UInt8) :=
  match files.open? path with
  | .ok (some content) => .ok content
  | .ok none => .error .isFolder
  | .error fault => .error fault

/-- The file system with these bytes in a file, which replaces one of this name. -/
def put (files : FileSystem) (names : List String) (content : List UInt8) : FileSystem :=
  { files with
    files := (names, content) :: files.files.filter fun file => file.1 ≠ names }

/-- Writes bytes into the file at a path, which is made if there is none. What is written as a
folder's path is not looked up for this. -/
def write (files : FileSystem) (text : String) (content : List UInt8) :
    Except FileFault FileSystem :=
  match files.approach text with
  | .error fault => .error fault
  | .ok (folder, path) =>
    if path.asFolder then .error .isFolder
    else match files.step folder (path.names.getLast?.getD ".") with
      | .ok (.file names _) => .ok (files.put names content)
      | .ok (.vacant names) => .ok (files.put names content)
      | .ok (.folder _) => .error .isFolder
      | .error fault => .error fault

end FileSystem

end ClassDiagram
