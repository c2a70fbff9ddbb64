import LineEditor.Number.Binary64
import LineEditor.Text.Plain

/-! What a command accepts behind its name: positional values in a fixed order, and named options,
each with a value of one kind. -/
namespace LineEditor.Options

/-- The kinds of value. A path is a text that is not empty. -/
inductive Kind where
  | text
  | integer
  | float
  | path
  deriving DecidableEq, Repr

inductive Value where
  | text (text : String)
  | integer (n : Int)
  | float (x : Number.Binary64)
  deriving DecidableEq, Repr

/-- An option `--name`, which always takes a value. -/
structure Named where
  name : String
  short : Option Char
  placeholder : String
  kind : Kind
  fallback : Option String
  help : String
  deriving DecidableEq, Repr

structure Positional where
  name : String
  placeholder : String
  kind : Kind
  required : Bool
  help : String
  deriving DecidableEq, Repr

/-- Everything a command accepts. There is always an option `--help`, `-h` for short; there is an
option `--version`, `-V` for short, if a version is known. -/
structure Grammar where
  command : String
  about : String
  version : Option String
  named : List Named
  positionals : List Positional
  deriving DecidableEq, Repr

def Named.valueText (o : Named) : String :=
  " <" ++ o.placeholder ++ ">"

/-- A positional value as it is written. A bracket says that it may be left out. -/
def Positional.text (p : Positional) : String :=
  if p.required then "<" ++ p.placeholder ++ ">" else "[" ++ p.placeholder ++ "]"

def Named.shown (o : Named) : String :=
  Text.plain ("--" ++ o.name ++ o.valueText)

def Positional.shown (p : Positional) : String :=
  Text.plain p.text

/-- The description of one argument of a command. An argument that is not optional is positional. -/
structure Descriptor where
  name : String
  kind : Kind
  optional : Bool
  fallback : Option String
  help : String
  deriving DecidableEq, Repr

inductive DescriptorError where
  | invalidName (name : String)
  | duplicate (name : String)
  deriving DecidableEq, Repr

def DescriptorError.message : DescriptorError → String
  | invalidName name => s!"invalid argument name '{name}'"
  | duplicate name => s!"duplicate argument '{name}'"

/-- The first letter of a name, if it is an ASCII letter or digit that is not taken yet. -/
def freeLetter (taken : List Char) (name : String) : Option Char :=
  match name.toList with
  | c :: _ => if c.isAlphanum && !taken.contains c then some c else none
  | [] => none

def Descriptor.toNamed (d : Descriptor) (short : Option Char) : Named :=
  ⟨d.name, short, d.name, d.kind, d.fallback, d.help⟩

def Descriptor.toPositional (d : Descriptor) : Positional :=
  ⟨d.name, d.name, d.kind, true, d.help⟩

/-- Sorts descriptions into options and positional values. Short letters go to the first option that
asks for them; names and letters that are taken already come along. -/
def arrange (names : List String) (letters : List Char) :
    List Descriptor → Except DescriptorError (List Named × List Positional)
  | [] => .ok ([], [])
  | d :: rest => do
    if d.name.isEmpty || d.name == "help" then throw (.invalidName d.name)
    if names.contains d.name then throw (.duplicate d.name)
    if d.optional then
      let short := freeLetter letters d.name
      let (named, positionals) ← arrange (d.name :: names) (short.toList ++ letters) rest
      return (d.toNamed short :: named, positionals)
    else
      let (named, positionals) ← arrange (d.name :: names) letters rest
      return (named, d.toPositional :: positionals)

/-- The letter `h` is always taken, by the option for help. -/
def Grammar.ofDescriptors (command about : String) (descriptors : List Descriptor) :
    Except DescriptorError Grammar := do
  let (named, positionals) ← arrange [] ['h'] descriptors
  return ⟨command, about, none, named, positionals⟩

end LineEditor.Options
