import GridLayout.Document.Path

/-!
# Folders

Reading a file can fail in a few ways, and a folder held in memory fails in the same ways as one on
a disk.  A folder is given by the files in it, each with its path; the folders on the way to a file
are there because the file is.
-/

namespace GridLayout

/-! ## Errors -/

/-- Why a file cannot be read. -/
inductive FileError where
  | notFound
  | notDirectory
  | isDirectory
  | nameTooLong
  | badName
  | notText
  | other (text : String)
  deriving DecidableEq, Repr

/-- The words for it. -/
def FileError.text : FileError → String
  | .notFound => "No such file or directory (os error 2)"
  | .notDirectory => "Not a directory (os error 20)"
  | .isDirectory => "Is a directory (os error 21)"
  | .nameTooLong => "File name too long (os error 36)"
  | .badName => "file name contained an unexpected NUL byte"
  | .notText => "stream did not contain valid UTF-8"
  | .other t => t

/-! ## Folders in memory -/

/-- The files of a folder, by their paths. -/
structure Folder where
  files : List (List String × String)

namespace Folder

/-- The folder of some files. -/
def ofFiles (files : List (String × String)) : Folder :=
  ⟨files.map fun f => (Path.parts f.1, f.2)⟩

/-- The text of the file at a place; of two files at one place the later counts. -/
def file? (folder : Folder) (place : List String) : Option String :=
  (folder.files.reverse.find? fun f => f.1 == place).map Prod.snd

/-- Whether a place is a folder. -/
def isFolder (folder : Folder) (place : List String) : Bool :=
  place.isEmpty || folder.files.any fun f => place.isPrefixOf f.1 && place.length < f.1.length

/-- The most bytes that a name may have. -/
def nameLimit : Nat := 255

/-- Follows a path from a folder; `asFolder` says that the path ends in a slash.  Empty parts have
been taken out. -/
def follow (folder : Folder) (asFolder : Bool) (place : List String) :
    List String → Except FileError String
  | [] => .error .isDirectory
  | "." :: rest => follow folder asFolder place rest
  | ".." :: rest => follow folder asFolder place.dropLast rest
  | name :: rest =>
    let place := place ++ [name]
    if nameLimit < name.utf8ByteSize then .error .nameTooLong
    else
      match folder.file? place with
      | some text => if rest.isEmpty && !asFolder then .ok text else .error .notDirectory
      | none =>
        if folder.isFolder place then follow folder asFolder place rest else .error .notFound

/-- The text of the file at a path. -/
def read (folder : Folder) (path : String) : Except FileError String :=
  let parts := (path.splitOn "/").filter fun p => p != ""
  if path.toList.contains '\x00' then .error .badName
  else if path.isEmpty then .error .notFound
  else if path.startsWith "/" && !parts.isEmpty then .error .notFound
  else folder.follow (path.endsWith "/") [] parts

end Folder

end GridLayout
