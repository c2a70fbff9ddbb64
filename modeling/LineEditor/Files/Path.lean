/-! Paths as text: names separated by slashes, absolute if they begin with one. -/
namespace LineEditor.Path

def isAbsolute (path : String) : Bool :=
  path.toList.head? == some '/'

/-- The names between the slashes, with nothing done about `.` and `..`. -/
def segments (path : String) : List String :=
  (path.splitOn "/").filter (!·.isEmpty)

/-- A path that ends with a slash can only be meant as a directory. -/
def endsWithSlash (path : String) : Bool :=
  path.toList.getLast? == some '/'

/-- The segments that matter when two paths are compared: a `.` counts only at the head of a relative
path. -/
def components (path : String) : List String :=
  let names := segments path
  if isAbsolute path then names.filter (· != ".")
  else match names with
    | first :: rest => first :: rest.filter (· != ".")
    | [] => []

/-- Two paths are spelled alike up to repeated slashes, final slashes and `.` inside. -/
def same (a b : String) : Bool :=
  isAbsolute a == isAbsolute b && components a == components b

def same? : Option String → Option String → Bool
  | some a, some b => same a b
  | none, none => true
  | _, _ => false

/-- The last name, unless the path ends with a step that is no name. -/
def fileName? (path : String) : Option String :=
  match (components path).getLast? with
  | some name => if name = "." ∨ name = ".." then none else some name
  | none => none

def isIdle (segment : String) : Bool :=
  segment.isEmpty || segment == "."

def dropIdleEnd (segments : List String) : List String :=
  (segments.reverse.dropWhile isIdle).reverse

/-- The path without its last component, spelled as it was. Idle segments at the end go along with the
component, but the root and a `.` at the head stay. A path without components has nothing in front
of it. -/
def parent (path : String) : String :=
  let (head, body) := match path.splitOn "/" with
    | [] => ([], [])
    | first :: rest => if isIdle first then ([first], rest) else ([], first :: rest)
  match dropIdleEnd body with
  | [] => ""
  | body =>
    match head, dropIdleEnd body.dropLast with
    | [""], [] => "/"
    | head, front => String.intercalate "/" (head ++ front)

def join (directory name : String) : String :=
  if isAbsolute name || directory.isEmpty then name
  else if endsWithSlash directory then directory ++ name
  else directory ++ "/" ++ name

end LineEditor.Path
