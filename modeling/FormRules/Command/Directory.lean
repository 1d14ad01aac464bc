import FormRules.Command.Error

/-!
# A working directory

A command can be run on a directory that is given by its files alone. It holds no other directory, and of the
directories above it nothing is known but that they are there. `Directory.read` follows a path part by part:

* an empty part and `.` lead nowhere, and `..` leads out of the directory;
* any other part is a name, which only in the directory is that of a file;
* after a file no part may follow, not even an empty one.

A path that ends at a directory cannot be read.
-/

namespace FormRules

/-- A directory of files, of which the first counts where two have one name. -/
structure Directory where
  /-- The names of the files and what they say. -/
  files : List (String × String)

namespace Directory

/-- Where a path has led to. -/
inductive Place where
  | inside
  | outside
  | file (text : String)

/-- The greatest size of a name in bytes. -/
def maxNameSize : Nat := 255

/-- The greatest size of a path in bytes. -/
def maxPathSize : Nat := 4095

/-- Looks a name up in a directory. -/
def enter (d : Directory) (isInside : Bool) (name : String) : Except ReadError Place :=
  if maxNameSize < name.utf8ByteSize then .error .nameTooLong
  else match if isInside then d.files.lookup name else none with
    | some text => .ok (.file text)
    | none => .error .notFound

/-- Follows one part of a path. -/
def follow (d : Directory) (place : Place) (part : String) : Except ReadError Place :=
  match place with
  | .file _ => .error .notDirectory
  | .inside =>
    if part = "" ∨ part = "." then .ok .inside
    else if part = ".." then .ok .outside
    else d.enter true part
  | .outside => if part = "" ∨ part = "." ∨ part = ".." then .ok .outside else d.enter false part

/-- Reads the file at a path. -/
def read (d : Directory) (path : String) : Except ReadError String := do
  if path.isEmpty then .error .notFound
  if maxPathSize < path.utf8ByteSize then .error .nameTooLong
  let start := if path.toList.head? = some '/' then .outside else .inside
  match ← (path.splitOn "/").foldlM d.follow start with
  | .file text => return text
  | _ => .error .directory

end Directory

end FormRules
