import LineEditor.Execute

/-! A session: prompt, read a line, do what it says, until a command quits or the input ends.

A command that fails is reported on the display and the session goes on. Only a display that takes no
more, or input that is no text, end it early. -/
namespace LineEditor

inductive StreamError where
  | output (e : SinkError)
  | invalidText
  deriving DecidableEq, Repr

def StreamError.message : StreamError → String
  | output e => e.message
  | invalidText => IoError.invalidText.message

/-- Bytes cut behind each line feed. What stands behind the last one is a piece unless it is empty. -/
def pieces (input : List UInt8) : List (List UInt8) :=
  input.foldr
    (fun byte found =>
      if byte = 10 then [byte] :: found
      else match found with
        | piece :: later => (byte :: piece) :: later
        | [] => [[byte]])
    []

def dropLineEnd (text : List Char) : List Char :=
  (text.reverse.dropWhile fun c => c == '\n' || c == '\r').reverse

def commandText? (piece : List UInt8) : Option String :=
  (String.fromUTF8? ⟨piece.toArray⟩).map fun text => String.ofList (dropLineEnd text.toList)

structure Session where
  registry : Registry
  prompt : String

structure Progress where
  desk : Desk
  events : List Event
  commands : Nat
  failures : Nat

structure Ended where
  result : Except StreamError ExitReason
  desk : Desk
  events : List Event

namespace Progress

def start (desk : Desk) : Progress :=
  ⟨desk, [], 0, 0⟩

/-- Shows a text; the session breaks off if the display does not take all of it. -/
def display (p : Progress) (text : String) : Except Ended Progress :=
  let (sink, complete) := p.desk.sink.write text
  let desk := { p.desk with sink }
  if complete then .ok { p with desk }
  else .error ⟨.error (.output .full), desk, p.events⟩

def close (p : Progress) (reason : ExitReason) : Ended :=
  ⟨.ok reason, p.desk,
    p.events ++ [.sessionEnded reason p.commands p.failures p.desk.buffer.count]⟩

end Progress

namespace Session

def ask (s : Session) (p : Progress) : Except Ended Progress :=
  p.display s.prompt

def answer (s : Session) (p : Progress) (piece : List UInt8) : Except Ended Progress :=
  match commandText? piece with
  | none => .error ⟨.error .invalidText, p.desk, p.events⟩
  | some text =>
    let outcome := execute s.registry text p.desk
    let events := p.events ++ outcome.events
    match outcome.result with
    | .ok .proceed => .ok ⟨outcome.desk, events, p.commands + 1, p.failures⟩
    | .ok .quit =>
      .error (Progress.close ⟨outcome.desk, events, p.commands + 1, p.failures⟩ .quit)
    | .error e =>
      Progress.display ⟨outcome.desk, events ++ [.commandFailed e], p.commands + 1, p.failures + 1⟩
        ("error: " ++ e.message ++ "\n")

def runPieces (s : Session) : List (List UInt8) → Progress → Ended
  | [], p =>
    match s.ask p with
    | .error ended => ended
    | .ok p => p.close .endOfInput
  | piece :: rest, p =>
    match (s.ask p).bind (s.answer · piece) with
    | .error ended => ended
    | .ok p => s.runPieces rest p

def run (s : Session) (input : ByteArray) (desk : Desk) : Ended :=
  s.runPieces (pieces input.data.toList) (.start desk)

end Session
end LineEditor
