import LineEditor.Files.Tree
import LineEditor.Options.Read
import LineEditor.Range
import LineEditor.Sink
import LineEditor.Words

/-! Why a command fails, and what is said about it. -/
namespace LineEditor

def maxDepth : Nat := 64

inductive CommandError where
  | address (e : AddressError)
  | noCommand
  | unknownCommand (name : String)
  | words (e : WordError)
  | arguments (command : String) (e : Options.ReadError)
  | noFilename
  | nestingTooDeep
  | io (path : String) (e : IoError)
  | output (e : SinkError)
  /-- A range does not lie within the buffer that it is cut from or put back into. -/
  | bounds (start stop count : Nat)
  deriving DecidableEq, Repr

def firstLine (text : String) : String :=
  let line := text.toList.takeWhile (· != '\n')
  let terminated := line.length < text.toList.length
  String.ofList (if terminated ∧ line.getLast? = some '\r' then line.dropLast else line)

def CommandError.message : CommandError → String
  | address e => e.message
  | noCommand => "no command specified"
  | unknownCommand name => name ++ ": command not found"
  | words e => e.message
  | arguments command e => command ++ ": " ++ firstLine e.message
  | noFilename => "no filename provided"
  | nestingTooDeep => s!"ranges nested more than {maxDepth} deep"
  | io path e => path ++ ": " ++ e.message
  | output e => "output: " ++ e.message
  | bounds start stop count => s!"lines {start} to {stop} of {count} do not exist"

end LineEditor
