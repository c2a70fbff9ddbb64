import LineEditor.Action
import LineEditor.Config.Settings
import LineEditor.Options.Usage

/-! The commands that can be given by name.

Commands are registered one after the other. Each name belongs to the first command that is accepted
under it, and the name `h` always belongs to the command that lists all of them. -/
namespace LineEditor

inductive Flow where
  | proceed
  | quit
  deriving DecidableEq, Repr

structure Summary where
  name : String
  function : String
  description : String
  deriving DecidableEq, Repr

/-- What a running command can see of the registry: all commands in order, and the width that line
numbers are shown with. -/
structure Catalogue where
  commands : List Summary
  numberWidth : Nat
  deriving DecidableEq, Repr

abbrev Handler := Catalogue → Options.Values → Action Flow

structure Definition where
  summary : Summary
  arguments : List Options.Descriptor
  handler : Handler

structure Command where
  summary : Summary
  grammar : Options.Grammar
  handler : Handler

inductive RegistryError where
  | emptyName
  | reserved (name : String)
  | duplicate (name : String)
  | invalidArguments (command : String) (e : Options.DescriptorError)
  deriving DecidableEq, Repr

def RegistryError.message : RegistryError → String
  | emptyName => "command names must not be empty"
  | reserved name => s!"the command name '{name}' is reserved"
  | duplicate name => s!"command '{name}' is already registered"
  | invalidArguments command e => command ++ ": " ++ e.message

def Command.name (c : Command) : String :=
  c.summary.name

def Definition.compile (d : Definition) : Except RegistryError Command :=
  match Options.Grammar.ofDescriptors d.summary.name d.summary.description d.arguments with
  | .ok grammar => .ok ⟨d.summary, grammar, d.handler⟩
  | .error e => .error (.invalidArguments d.summary.name e)

/-- Understands the words behind the command name and does the work. On `--help` it shows the usage
text and does nothing else. -/
def Command.run (c : Command) (catalogue : Catalogue) (words : List String) : Action Flow :=
  match c.grammar.read words with
  | .ok values => c.handler catalogue values
  | .error (.failed e) => .fail (.arguments c.name e)
  | .error .help | .error .version => do
    .print c.grammar.usage
    return .proceed

def helpName : String := "h"

def Summary.line (s : Summary) : String :=
  s.name ++ ", " ++ s.function ++ ",  " ++ s.description ++ "\n"

def help : Command where
  summary := ⟨helpName, "help", "Print help message for all commands."⟩
  grammar := ⟨helpName, "Print help message for all commands.", none, [], []⟩
  handler := fun catalogue _ => do
    .print "Available commands:\n\n"
    .printAll (catalogue.commands.map Summary.line)
    return .proceed

structure Registry where
  /-- In ascending order of names. -/
  commands : List Command
  numberWidth : Nat

namespace Registry

def new : Registry :=
  ⟨[help], Config.defaultWidth⟩

def get? (r : Registry) (name : String) : Option Command :=
  r.commands.find? (·.name == name)

/-- Puts a command in front of the first one with a greater name. -/
def insertSorted (c : Command) : List Command → List Command
  | [] => [c]
  | d :: rest => if c.name < d.name then c :: d :: rest else d :: insertSorted c rest

def register (r : Registry) (d : Definition) : Except RegistryError Registry := do
  if Text.allBlank d.summary.name.toList then throw .emptyName
  if d.summary.name = helpName then throw (.reserved d.summary.name)
  if (r.get? d.summary.name).isSome then throw (.duplicate d.summary.name)
  return { r with commands := insertSorted (← d.compile) r.commands }

/-- Registers what can be registered, and leaves the rest. -/
def registerAll (r : Registry) (definitions : List Definition) : Registry :=
  definitions.foldl (fun r d => (r.register d).toOption.getD r) r

def catalogue (r : Registry) : Catalogue :=
  ⟨r.commands.map (·.summary), r.numberWidth⟩

end Registry
end LineEditor
