import LatexTree.Text.Split

/-! Files as a program meets them: what a path leads to, and why it may lead nowhere. -/
namespace LatexTree

inductive FileEntry where
  | text (content : String)
  | binary
  /-- Reads as an empty text, but is no regular file. -/
  | device
  | directory
deriving DecidableEq, Repr

def FileEntry.ofBytes (bytes : ByteArray) : FileEntry :=
  match String.fromUTF8? bytes with
  | some content => .text content
  | none => .binary

inductive FileError where
  | missing
  | notDirectory
  | isDirectory
  | tooLong
  | encoding
deriving DecidableEq, Repr

def FileError.message : FileError → String
  | .missing => "No such file or directory (os error 2)"
  | .notDirectory => "Not a directory (os error 20)"
  | .isDirectory => "Is a directory (os error 21)"
  | .tooLong => "File name too long (os error 36)"
  | .encoding => "stream did not contain valid UTF-8"

abbrev Files := String → Except FileError FileEntry

namespace Files

def read (files : Files) (path : String) : Except FileError String :=
  match files path with
  | .error error => .error error
  | .ok .directory => .error .isDirectory
  | .ok .binary => .error .encoding
  | .ok .device => .ok ""
  | .ok (.text content) => .ok content

def isFile (files : Files) (path : String) : Bool :=
  match files path with
  | .ok (.text _) => true
  | .ok .binary => true
  | _ => false

/-- The names along a path, without those that stay in place. -/
def names (path : String) : List String :=
  (parts '/' path).filter fun name => name ≠ "" ∧ name ≠ "."

def isAbsolute (path : String) : Bool := path.toList.head? == some '/'

def plain (path : String) : String :=
  (if isAbsolute path then "/" else "") ++ "/".intercalate (names path)

end Files

structure Directory where
  entries : List (List String × FileEntry)
  /-- The root of a file system is above itself. -/
  isRoot : Bool := false

namespace Directory

def ofList (entries : List (String × FileEntry)) : Directory :=
  ⟨entries.map fun (path, entry) => (Files.names path, entry), false⟩

/-- What stands above a working directory: directories in which nothing is known. -/
def above : Directory := ⟨[], true⟩

/-- What every system has: a device that is always empty, and some directories. -/
def system : Directory where
  entries := (["dev", "etc", "home", "opt", "proc", "root", "run", "sys", "tmp", "usr", "var"].map
    fun name => ([name], FileEntry.directory)) ++ [(["dev", "null"], .device)]
  isRoot := true

/-- A directory may be there only because something is in it. -/
def entry? (directory : Directory) (names : List String) : Option FileEntry :=
  (directory.entries.lookup names).or
    (if names.isEmpty ∨ directory.entries.any (fun entry => names.isPrefixOf entry.1) then
      some .directory
    else none)

def nameLimit : Nat := 255

def walk : Directory → List String → List String → Except FileError FileEntry
  | directory, passed, [] => (directory.entry? passed).elim (.error .missing) .ok
  | directory, passed, name :: rest =>
    match directory.entry? passed with
    | none => .error .missing
    | some .directory =>
      if name = "" ∨ name = "." then walk directory passed rest
      else if name = ".." then
        if passed.isEmpty then walk (if directory.isRoot then directory else above) [] rest
        else walk directory passed.dropLast rest
      else if nameLimit < name.utf8ByteSize then .error .tooLong
      else walk directory (passed ++ [name]) rest
    | some _ => .error .notDirectory

def pathLimit : Nat := 4096

def files (directory : Directory) : Files := fun path =>
  if path.isEmpty then .error .missing
  else if pathLimit ≤ path.utf8ByteSize then .error .tooLong
  else (if Files.isAbsolute path then system else directory).walk [] (parts '/' path)

end Directory

end LatexTree
