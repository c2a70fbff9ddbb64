import LineEditor.Files.Path

/-! A tree of files and directories with a working directory.

Paths are resolved step by step: every step but the last must lead into a directory, `..` goes up, and
a final slash asks for a directory. Nothing here asks for permissions or follows links. -/
namespace LineEditor

inductive IoError where
  | notFound
  | notDirectory
  | isDirectory
  | nameTooLong
  | occupied
  | invalidText
  | nulInName
  deriving DecidableEq, Repr

def IoError.message : IoError → String
  | notFound => "No such file or directory (os error 2)"
  | notDirectory => "Not a directory (os error 20)"
  | isDirectory => "Is a directory (os error 21)"
  | nameTooLong => "File name too long (os error 36)"
  | occupied => "File exists (os error 17)"
  | invalidText => "stream did not contain valid UTF-8"
  | nulInName => "file name contained an unexpected NUL byte"

inductive Entry where
  | directory
  | file (content : ByteArray)
  deriving BEq

abbrev Location := List String

structure FileTree where
  here : Location
  entries : List (Location × Entry)

inductive Place where
  | directory (location : Location)
  | file (location : Location) (content : ByteArray)
  /-- Nothing, in a directory that exists. -/
  | free (location : Location)

namespace FileTree

/-- The root is always a directory. -/
def lookup (t : FileTree) (location : Location) : Option Entry :=
  match location with
  | [] => some .directory
  | _ => (t.entries.find? (·.1 == location)).map (·.2)

def put (t : FileTree) (location : Location) (entry : Entry) : FileTree :=
  { t with entries := (location, entry) :: t.entries.filter (·.1 != location) }

def remove (t : FileTree) (location : Location) : FileTree :=
  { t with entries := t.entries.filter (·.1 != location) }

/-- The longest name of a file in bytes. -/
def maxNameSize : Nat := 255

/-- The longest path in bytes. -/
def maxPathSize : Nat := 4095

def walk (t : FileTree) (directory : Location) : List String → Except IoError Place
  | [] => .ok (.directory directory)
  | name :: rest =>
    if name = "." then t.walk directory rest
    else if name = ".." then t.walk directory.dropLast rest
    else if maxNameSize < name.utf8ByteSize then .error .nameTooLong
    else
      let location := directory ++ [name]
      match t.lookup location with
      | some .directory => t.walk location rest
      | some (.file content) =>
        if rest.isEmpty then .ok (.file location content) else .error .notDirectory
      | none => if rest.isEmpty then .ok (.free location) else .error .notFound

def origin (t : FileTree) (path : String) : Location :=
  if Path.isAbsolute path then [] else t.here

def checkPath (path : String) : Except IoError Unit :=
  if path.toList.contains '\x00' then .error .nulInName
  else if path.isEmpty then .error .notFound
  else if maxPathSize < path.utf8ByteSize then .error .nameTooLong
  else .ok ()

def follow (t : FileTree) (path : String) (names : List String) : Except IoError Place := do
  checkPath path
  t.walk (t.origin path) names

/-- What a path leads to. A file behind a final slash is not resolved further here. -/
def locate (t : FileTree) (path : String) : Except IoError Place :=
  t.follow path (Path.segments path)

def has (t : FileTree) (path : String) : Bool :=
  match t.locate path with
  | .ok (.directory _) => true
  | .ok (.file _ _) => !Path.endsWithSlash path
  | _ => false

def readBytes (t : FileTree) (path : String) : Except IoError ByteArray := do
  match ← t.locate path with
  | .directory _ => throw .isDirectory
  | .file _ content => if Path.endsWithSlash path then throw .notDirectory else return content
  | .free _ => throw .notFound

def readText (t : FileTree) (path : String) : Except IoError String := do
  match String.fromUTF8? (← t.readBytes path) with
  | some text => return text
  | none => throw .invalidText

/-- Where a file of this path is or can be made. With a final slash only the way up to the last name
matters, since no file can have such a path. -/
def target (t : FileTree) (path : String) : Except IoError Location := do
  if Path.endsWithSlash path then
    let _ ← t.follow path ((Path.segments path).dropLast ++ ["."])
    throw .isDirectory
  match ← t.locate path with
  | .directory _ => throw .isDirectory
  | .file location _ | .free location => return location

def writeBytes (t : FileTree) (path : String) (content : ByteArray) : Except IoError FileTree := do
  return t.put (← t.target path) (.file content)

def writeText (t : FileTree) (path : String) (text : String) : Except IoError FileTree :=
  t.writeBytes path text.toUTF8

def createFile (t : FileTree) (path : String) : Except IoError FileTree := do
  let location ← t.target path
  match t.lookup location with
  | some _ => return t
  | none => return t.put location (.file .empty)

/-- Takes a file away. Directories stay. -/
def removeFile (t : FileTree) (path : String) : FileTree :=
  match t.locate path with
  | .ok (.file location _) => if Path.endsWithSlash path then t else t.remove location
  | _ => t

def makeDirectory (t : FileTree) (directory : Location) (name : List String) :
    Except IoError FileTree := do
  match ← t.walk directory name with
  | .directory _ => return t
  | .file _ _ => throw .occupied
  | .free location => return t.put location .directory

/-- Makes the directories on the way to a path, and one at the path itself, as far as they can be made. -/
def makeDirectories (t : FileTree) (path : String) : FileTree :=
  match checkPath path with
  | .error _ => t
  | .ok () =>
    let names := Path.components path
    (List.range names.length).foldl
      (fun t n => (t.makeDirectory (t.origin path) (names.take (n + 1))).toOption.getD t) t

end FileTree
end LineEditor
