import LineEditor.Text.Reader
import LineEditor.Toml.Scalar

/-! Reading TOML documents. -/
namespace LineEditor.Toml

open Text (Step iterate)
open Number (charOfHex?)

/-! ## White space and comments -/

def isSpace (c : Char) : Bool :=
  c == ' ' || c == '\t'

def skipSpaces (text : List Char) : List Char :=
  text.dropWhile isSpace

/-- Characters that may stand in comments and strings: no control characters but the tab. -/
def isPrintable (c : Char) : Bool :=
  c == '\t' || (0x20 ≤ c.toNat && c.toNat != 0x7f)

def newline? : List Char → Option (List Char)
  | '\n' :: rest => some rest
  | '\r' :: '\n' :: rest => some rest
  | _ => none

def skipComment : List Char → List Char
  | '#' :: rest => rest.dropWhile isPrintable
  | text => text

def endOfLine? (text : List Char) : Option (List Char) :=
  match skipComment (skipSpaces text) with
  | [] => some []
  | rest => newline? rest

def skipLines? (text : List Char) : Option (List Char) :=
  (iterate
    (fun () text =>
      match skipSpaces text with
      | '#' :: rest => (newline? (rest.dropWhile isPrintable)).map (.more ())
      | rest => some (match newline? rest with
        | some later => .more () later
        | none => .done () rest))
    () text).map (·.2)

/-! ## Strings -/

def hexEscape? (n : Nat) (text : List Char) : Option (Char × List Char) := do
  let digits := text.take n
  if digits.length = n then return (← charOfHex? digits, text.drop n) else none

def escape? : List Char → Option (Char × List Char)
  | 'b' :: rest => some ('\x08', rest)
  | 't' :: rest => some ('\t', rest)
  | 'n' :: rest => some ('\n', rest)
  | 'f' :: rest => some ('\x0c', rest)
  | 'r' :: rest => some ('\r', rest)
  | 'e' :: rest => some ('\x1b', rest)
  | '"' :: rest => some ('"', rest)
  | '\\' :: rest => some ('\\', rest)
  | 'x' :: rest => hexEscape? 2 rest
  | 'u' :: rest => hexEscape? 4 rest
  | 'U' :: rest => hexEscape? 8 rest
  | _ => none

def skipBlanks : List Char → List Char
  | ' ' :: rest | '\t' :: rest | '\n' :: rest | '\r' :: '\n' :: rest => skipBlanks rest
  | text => text

def escapedNewline? (text : List Char) : Option (List Char) :=
  (newline? (skipSpaces text)).map skipBlanks

/-- Three quotes end a string of several lines; one or two more in front of them belong to it. -/
def closing (quote : Char) (letters : List Char) (text : List Char) : Step (List Char) String :=
  let extra := min 2 (text.takeWhile (· == quote)).length
  .done (String.ofList (letters.reverse ++ List.replicate extra quote)) (text.drop extra)

/-- A step in a string of several lines, which collects its characters backwards. -/
def linesStep (quote : Char) (escapes : Bool) (letters : List Char) :
    List Char → Option (Step (List Char) String)
  | [] => none
  | '\\' :: rest =>
    if escapes then
      match escape? rest with
      | some (c, rest) => some (.more (c :: letters) rest)
      | none => (escapedNewline? rest).map (.more letters)
    else some (.more ('\\' :: letters) rest)
  | '\r' :: '\n' :: rest => some (.more ('\n' :: '\r' :: letters) rest)
  | '\n' :: rest => some (.more ('\n' :: letters) rest)
  | c :: rest =>
    if c = quote then
      match rest with
      | d :: e :: later =>
        if d = quote ∧ e = quote then some (closing quote letters later)
        else some (.more (c :: letters) rest)
      | _ => some (.more (c :: letters) rest)
    else if isPrintable c then some (.more (c :: letters) rest)
    else none

def lineStep (quote : Char) (escapes : Bool) (letters : List Char) :
    List Char → Option (Step (List Char) String)
  | [] => none
  | c :: rest =>
    if c = quote then some (.done (String.ofList letters.reverse) rest)
    else if c = '\\' ∧ escapes then (escape? rest).map fun (c, rest) => .more (c :: letters) rest
    else if isPrintable c then some (.more (c :: letters) rest)
    else none

def lineString? : List Char → Option (String × List Char)
  | '"' :: rest => iterate (lineStep '"' true) [] rest
  | '\'' :: rest => iterate (lineStep '\'' false) [] rest
  | _ => none

/-- The end of a line directly behind the opening quotes does not count. -/
def string? : List Char → Option (String × List Char)
  | '"' :: '"' :: '"' :: rest => iterate (linesStep '"' true) [] ((newline? rest).getD rest)
  | '\'' :: '\'' :: '\'' :: rest => iterate (linesStep '\'' false) [] ((newline? rest).getD rest)
  | text => lineString? text

/-! ## Keys -/

def isBareKeyChar (c : Char) : Bool :=
  c.isAlphanum || c == '_' || c == '-'

def simpleKey? (text : List Char) : Option (String × List Char) :=
  match text.head? with
  | some '"' | some '\'' => lineString? text
  | _ =>
    let name := text.takeWhile isBareKeyChar
    if name.isEmpty then none else some (String.ofList name, text.dropWhile isBareKeyChar)

/-- The number of levels that arrays and tables may be nested in a value, and of keys in a name. -/
def maxLevels : Nat := 80

/-- A name of one or more keys with dots between them: the path and the last key. -/
def key? (text : List Char) : Option ((List String × String) × List Char) := do
  let ((path, key), rest) ← iterate
    (fun path text => do
      let (key, rest) ← simpleKey? (skipSpaces text)
      match skipSpaces rest with
      | '.' :: later => return .more (path ++ [key]) later
      | later => return .done (path, key) later)
    [] text
  if path.length < maxLevels then return ((path, key), rest) else none

/-! ## Values -/

/-- A value, an equals sign and a name in front of it. What may stand around the equals sign is skipped. -/
def assignment? (skip : List Char → Option (List Char))
    (value? : List Char → Option (Value × List Char)) (text : List Char) :
    Option ((List String × String × Value) × List Char) := do
  let ((path, key), rest) ← key? text
  let (value, rest) ← value? (← skip (← expect? '=' (← skip rest)))
  return ((path, key, value), rest)

/-- A step through the items between brackets: what has been collected, and whether an item may come
next. One comma stands between two items, and one may stand behind the last. -/
def itemStep (close : Char) (item? : α → List Char → Option (α × List Char)) :
    α × Bool → List Char → Option (Step (α × Bool) α) :=
  fun (items, ready) text => do
    match ← skipLines? text with
    | [] => none
    | c :: rest =>
      if c = close then return .done items rest
      else if c = ',' then if ready then none else return .more (items, true) rest
      else if ready then
        let (items, rest) ← item? items (c :: rest)
        return .more (items, false) rest
      else none

def items? (close : Char) (item? : α → List Char → Option (α × List Char)) (start : α)
    (text : List Char) : Option (α × List Char) :=
  iterate (itemStep close item?) (start, true) text

/-- A value that may hold `levels` more levels of arrays and tables. Between braces and brackets a new
line may begin wherever there may be a space, but not inside a name. -/
def value? : Nat → List Char → Option (Value × List Char)
  | levels, text =>
    match text, levels with
    | '[' :: rest, levels + 1 => do
      let (items, rest) ← items? ']'
        (fun items text => (value? levels text).map fun (v, rest) => (v :: items, rest)) [] rest
      return (.array items.reverse, rest)
    | '\x7b' :: rest, levels + 1 => do
      let (entries, rest) ← items? '\x7d'
        (fun (entries : Entries) text => do
          let ((path, key, value), rest) ← assignment? skipLines? (value? levels) text
          return (← entries.addValue path key value, rest)) [] rest
      return (.table .inline entries, rest)
    | '[' :: _, 0 | '\x7b' :: _, 0 => none
    | '"' :: _, _ | '\'' :: _, _ => (string? text).map fun (s, rest) => (.string s, rest)
    | _, _ => scalar? text

/-! ## Documents -/

/-- The document so far, and the table that plain keys go to. -/
structure Draft where
  root : Entries
  current : List String

def Draft.add (d : Draft) (path : List String) (key : String) (value : Value) : Option Draft := do
  let root ← Entries.descend false (fun _ entries => entries.addValue path key value)
    d.current .header d.root
  return { d with root }

def header? (brackets : Nat) (text : List Char) :
    Option ((List String × String) × List Char) := do
  let (name, rest) ← key? text
  if rest.take brackets = List.replicate brackets ']' then
    return (name, ← endOfLine? (rest.drop brackets))
  else none

/-- One line of a document, or several if a value goes on behind the end of the first. -/
def lineOf? (d : Draft) (text : List Char) : Option (Step Draft Entries) :=
  match skipSpaces text with
  | [] => some (.done d.root [])
  | '[' :: '[' :: rest => do
    let ((path, key), rest) ← header? 2 rest
    return .more ⟨← d.root.openItem path key, path ++ [key]⟩ rest
  | '[' :: rest => do
    let ((path, key), rest) ← header? 1 rest
    return .more ⟨← d.root.openTable path key, path ++ [key]⟩ rest
  | c :: rest =>
    if c = '#' ∨ c = '\n' ∨ c = '\r' then (endOfLine? (c :: rest)).map (.more d)
    else do
      let ((path, key, value), rest) ←
        assignment? (fun text => some (skipSpaces text)) (value? maxLevels) (c :: rest)
      return .more (← d.add path key value) (← endOfLine? rest)

/-- The entries of a whole document. A byte order mark at its head does not count. -/
def document? (text : String) : Option Entries :=
  let text := match text.toList with
    | '\ufeff' :: rest => rest
    | text => text
  (iterate lineOf? ⟨[], []⟩ text).map (·.1)

end LineEditor.Toml
