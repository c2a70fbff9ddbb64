import LineEditor.Registry

/-! The commands that every editor has. Each one works on the document it is given, which is the whole
one or a slice of it. -/
namespace LineEditor.Commands

def textArguments : List Options.Descriptor :=
  [⟨"text", .text, false, none, "Text to add; embedded newlines split lines"⟩]

def fileArguments : List Options.Descriptor :=
  [⟨"filename", .text, true, none, "File to use instead of the buffer's associated file"⟩]

def numberArguments : List Options.Descriptor :=
  [⟨"width", .integer, true, none,
    "Column width for the line numbers (1-16); defaults to the configured width"⟩]

def textHandler (name : String) (f : Buffer → List String → Buffer) : Handler := fun _ values =>
  match values.text? "text" with
  | none => .fail (.arguments name (.absent "text"))
  | some text => do
    .edit fun b => f b (Text.splitTyped text)
    return .proceed

def insert : Definition where
  summary := ⟨"i", "insert", "Insert text after the current line."⟩
  arguments := textArguments
  handler := textHandler "i" Buffer.insert

def append : Definition where
  summary := ⟨"a", "append", "Append text after the last line."⟩
  arguments := textArguments
  handler := textHandler "a" Buffer.append

def change : Definition where
  summary := ⟨"c", "change", "Replace the lines with text."⟩
  arguments := textArguments
  handler := textHandler "c" Buffer.replaceAll

def delete : Definition where
  summary := ⟨"d", "delete",
    "Delete the lines. Without a range this empties the whole buffer; use `.d` for the current line."⟩
  arguments := []
  handler := fun _ _ => do
    .edit Buffer.clear
    return .proceed

def printLines : Action Unit := do
  .printAll ((← .buffer).lines.map (· ++ "\n"))

def print : Definition where
  summary := ⟨"p", "print", "Print the lines."⟩
  arguments := []
  handler := fun _ _ => do
    printLines
    return .proceed

/-- A number at the right end of a column; a wider one takes the room that it needs. -/
def padLeft (width n : Nat) : String :=
  let digits := toString n
  Options.spaces (width - digits.length) ++ digits

def numbered (width : Nat) (first : UInt64) : List String → List String
  | [] => []
  | line :: rest => (padLeft width first.toNat ++ "\t" ++ line ++ "\n") :: numbered width (first + 1) rest

def chosenWidth (catalogue : Catalogue) (asked : Option Int) : Nat :=
  match asked with
  | some n => Config.clampWidth n.toNat
  | none => catalogue.numberWidth

def number : Definition where
  summary := ⟨"n", "number", "Print the lines with their line numbers."⟩
  arguments := numberArguments
  handler := fun catalogue values => do
    let b ← .buffer
    .printAll (numbered (chosenWidth catalogue (values.integer? "width")) b.firstNumber b.lines)
    return .proceed

def chosenFile (values : Options.Values) : Action String := do
  match (values.text? "filename").or (← .buffer).file with
  | some path => return path
  | none => .fail .noFilename

/-- What reading a stored text does to the document. One without lines takes on its terminator. -/
def takeIn (path : String) (text : Text.Loaded) (b : Buffer) : Buffer :=
  let b := if b.isEmpty then { b with ending := text.ending } else b
  { b.insert text.lines with file := some path }

def read : Definition where
  summary := ⟨"r", "read", "Read a file and insert its lines after the current line."⟩
  arguments := fileArguments
  handler := fun _ values => do
    let path ← chosenFile values
    let text ← .readFile path
    .edit (takeIn path text)
    return .proceed

def write : Definition where
  summary := ⟨"w", "write", "Write the lines to a file."⟩
  arguments := fileArguments
  handler := fun _ values => do
    let path ← chosenFile values
    .writeFile path
    .edit fun b => { b with file := some path }
    return .proceed

def quit : Definition where
  summary := ⟨"q", "quit", "Quit the editor."⟩
  arguments := []
  handler := fun _ _ => return .quit

def all : List Definition :=
  [insert, append, change, delete, print, number, read, write, quit]

end LineEditor.Commands

namespace LineEditor

def Registry.builtin : Registry :=
  Registry.new.registerAll Commands.all

end LineEditor
