/-! Where display output goes. A sink may take a limited number of bytes; a write that goes beyond
fills it up and fails, and so does every later write that is not empty. -/
namespace LineEditor

inductive SinkError where
  | full
  deriving DecidableEq, Repr

def SinkError.message : SinkError → String
  | full => "sink full"

structure Sink where
  written : ByteArray
  /-- The bytes it still takes; without a limit there is none. -/
  room : Option Nat

namespace Sink

def unlimited : Sink :=
  ⟨.empty, none⟩

def limited (room : Nat) : Sink :=
  ⟨.empty, some room⟩

/-- Takes as much of a text as there is room for. The second part tells whether that was all. -/
def write (sink : Sink) (text : String) : Sink × Bool :=
  let bytes := text.toUTF8
  match sink.room with
  | none => ({ sink with written := sink.written ++ bytes }, true)
  | some room =>
    if bytes.size ≤ room then (⟨sink.written ++ bytes, some (room - bytes.size)⟩, true)
    else (⟨sink.written ++ bytes.extract 0 room, some 0⟩, false)

end Sink
end LineEditor
