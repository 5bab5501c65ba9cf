import AccessCanvas.Text.Strings

/-!
Files by their paths, and what keeps one from being read as a text. A directory is given by what is
in it; paths start there, and what lies outside is not known.
-/

namespace AccessCanvas

inductive FileFault where
  | missing
  | directory
  | notDirectory
  | nameTooLong
  | invalidName
  | notText
  | other (description : String)
deriving DecidableEq, Repr

def FileFault.message : FileFault → String
  | .missing => "No such file or directory (os error 2)"
  | .directory => "Is a directory (os error 21)"
  | .notDirectory => "Not a directory (os error 20)"
  | .nameTooLong => "File name too long (os error 36)"
  | .invalidName => "file name contained an unexpected NUL byte"
  | .notText => "stream did not contain valid UTF-8"
  | .other description => description

def decodeFile (bytes : ByteArray) : Except FileFault String :=
  match String.fromUTF8? bytes with
  | some text => .ok text
  | none => .error .notText

inductive DirectoryEntry where
  | file (bytes : ByteArray)
  | directory

structure Directory where
  entries : List (String × DirectoryEntry) := []

namespace Directory

inductive Place where
  | file (bytes : ByteArray)
  | directory
  | nothing

def parts (path : String) : List (List Char) :=
  Text.pieces (· == '/') path.toList

def place (directory : Directory) (path : List (List Char)) : Place :=
  if path.isEmpty then .directory
  else
    match directory.entries.find? (parts ·.1 == path) with
    | some (_, .file bytes) => .file bytes
    | some (_, .directory) => .directory
    | none =>
      if directory.entries.any fun entry => path.isPrefixOf (parts entry.1) then .directory
      else .nothing

def maxNameLength : Nat := 255

def maxPathLength : Nat := 4095

/-- What stands at the end of a path; every part but the last has to be a directory. -/
def follow (directory : Directory) (here : List (List Char)) :
    List (List Char) → Except FileFault Place
  | [] => .ok (directory.place here)
  | part :: later =>
    match directory.place here with
    | .nothing => .error .missing
    | .file _ => .error .notDirectory
    | .directory =>
      if part = [] ∨ part = ['.'] then directory.follow here later
      else if part = ['.', '.'] then
        if here.isEmpty then .error .missing else directory.follow here.dropLast later
      else if maxNameLength < Text.byteCount part then .error .nameTooLong
      else directory.follow (here ++ [part]) later

def bytes (directory : Directory) (path : String) : Except FileFault ByteArray :=
  if path.toList.contains '\x00' then .error .invalidName
  else if path.isEmpty ∨ path.startsWith "/" then .error .missing
  else if maxPathLength < path.utf8ByteSize then .error .nameTooLong
  else
    match directory.follow [] (parts path) with
    | .error fault => .error fault
    | .ok .nothing => .error .missing
    | .ok .directory => .error .directory
    | .ok (.file bytes) => .ok bytes

def read (directory : Directory) (path : String) : Except FileFault String :=
  match directory.bytes path with
  | .error fault => .error fault
  | .ok bytes => decodeFile bytes

end Directory

end AccessCanvas
