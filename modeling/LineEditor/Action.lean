import LineEditor.Buffer
import LineEditor.Event

/-! Actions: what a command does to the document, the files and the display, with the events that it
reports. A failing action says why, and what it has done up to then remains. -/
namespace LineEditor

structure Desk where
  buffer : Buffer
  files : FileTree
  sink : Sink

structure Outcome (α : Type) where
  result : Except CommandError α
  desk : Desk
  events : List Event

def Action (α : Type) : Type :=
  Desk → Outcome α

namespace Action

protected def pure (a : α) : Action α :=
  fun desk => ⟨.ok a, desk, []⟩

protected def bind (x : Action α) (f : α → Action β) : Action β :=
  fun desk =>
    let first := x desk
    match first.result with
    | .error e => ⟨.error e, first.desk, first.events⟩
    | .ok a =>
      let second := f a first.desk
      ⟨second.result, second.desk, first.events ++ second.events⟩

instance : Monad Action where
  pure := Action.pure
  bind := Action.bind

def fail (e : CommandError) : Action α :=
  fun desk => ⟨.error e, desk, []⟩

def ofExcept : Except CommandError α → Action α
  | .ok a => Action.pure a
  | .error e => fail e

def report (event : Event) : Action Unit :=
  fun desk => ⟨.ok (), desk, [event]⟩

def buffer : Action Buffer :=
  fun desk => ⟨.ok desk.buffer, desk, []⟩

def setBuffer (b : Buffer) : Action Unit :=
  fun desk => ⟨.ok (), { desk with buffer := b }, []⟩

def edit (f : Buffer → Buffer) : Action Unit :=
  fun desk => ⟨.ok (), { desk with buffer := f desk.buffer }, []⟩

/-- Shows a text, or as much of it as the sink takes. -/
def print (text : String) : Action Unit :=
  fun desk =>
    let (sink, complete) := desk.sink.write text
    ⟨if complete then .ok () else .error (.output .full), { desk with sink }, []⟩

def printAll : List String → Action Unit
  | [] => Action.pure ()
  | text :: rest => Action.bind (print text) fun _ => printAll rest

/-- Lets an action work on another document in place of this one, which stays as it is. The result
comes with what has become of the other document. -/
def on (b : Buffer) (x : Action α) : Action (α × Buffer) :=
  fun desk =>
    let inner := x { desk with buffer := b }
    ⟨inner.result.map (·, inner.desk.buffer), { inner.desk with buffer := desk.buffer },
      inner.events⟩

def readFile (path : String) : Action Text.Loaded :=
  fun desk =>
    match desk.files.readText path with
    | .error e => ⟨.error (.io path e), desk, [.fileReadFailed path e]⟩
    | .ok text =>
      let loaded := Text.Loaded.ofText text
      ⟨.ok loaded, desk,
        .fileRead path text.utf8ByteSize loaded.lines.length ::
          if loaded.mixed then [.mixedEndings path] else []⟩

def writeFile (path : String) : Action Unit :=
  fun desk =>
    let text := desk.buffer.render
    match desk.files.writeText path text with
    | .error e => ⟨.error (.io path e), desk, [.fileWriteFailed path e]⟩
    | .ok files =>
      ⟨.ok (), { desk with files }, [.fileWritten path text.utf8ByteSize desk.buffer.count]⟩

end Action
end LineEditor
