import LineEditor.Text.Lines

/-! The document being edited: its lines, the current line, and what is needed to store it again.

Commands that are given a range of lines work on a slice of the document, which is put back over
the range when the command is done. A slice is a buffer itself, so a range may hold another. -/
namespace LineEditor

structure Buffer where
  lines : List String
  cursor : Option Nat
  /-- Numbers have 64 bits, and zero follows the greatest one. -/
  firstNumber : UInt64
  file : Option String
  ending : LineEnding
  deriving DecidableEq, Repr

namespace Buffer

/-- A current line is set exactly if there are lines, and then it is one of them. -/
def Valid (b : Buffer) : Prop :=
  match b.cursor with
  | none => b.lines = []
  | some i => i < b.lines.length

instance (b : Buffer) : Decidable b.Valid := by
  unfold Valid
  split <;> infer_instance

def lastOf (lines : List String) : Option Nat :=
  if lines.isEmpty then none else some (lines.length - 1)

/-- The last line is the current one. -/
def ofLines (lines : List String) : Buffer :=
  ⟨lines, lastOf lines, 1, none, .lf⟩

def empty : Buffer :=
  .ofLines []

instance : Inhabited Buffer := ⟨empty⟩

def ofLoaded (text : Text.Loaded) : Buffer :=
  { ofLines text.lines with ending := text.ending }

def ofText (text : String) : Buffer :=
  .ofLoaded (.ofText text)

variable (b : Buffer)

def count : Nat :=
  b.lines.length

def isEmpty : Bool :=
  b.lines.isEmpty

def last : Option Nat :=
  lastOf b.lines

def line? (i : Nat) : Option String :=
  b.lines[i]?

def current? : Option String :=
  b.cursor.bind b.line?

def numberAt (i : Nat) : UInt64 :=
  b.firstNumber + .ofNat i

/-- Makes `i` the current line if there is such a line. -/
def moveTo (i : Nat) : Buffer :=
  if i < b.count then { b with cursor := some i } else b

/-- The new lines go behind the current line, and the last of them becomes current. -/
def insert (new : List String) : Buffer :=
  if new.isEmpty then b
  else match b.cursor with
    | none => { b with lines := new, cursor := lastOf new }
    | some i =>
      { b with
        lines := b.lines.take (i + 1) ++ new ++ b.lines.drop (i + 1)
        cursor := some (i + new.length) }

/-- The new lines go behind the last line, and the last of them becomes current. -/
def append (new : List String) : Buffer :=
  if new.isEmpty then b
  else { b with lines := b.lines ++ new, cursor := lastOf (b.lines ++ new) }

def replaceAll (new : List String) : Buffer :=
  { b with lines := new, cursor := lastOf new }

def clear : Buffer :=
  b.replaceAll []

/-- The lines from `start` up to but not including `stop`, as a buffer whose numbering, file and
terminator agree with the whole. There is none unless `start ≤ stop ≤ count`. -/
def slice? (start stop : Nat) : Option Buffer :=
  if start ≤ stop ∧ stop ≤ b.count then
    let lines := (b.lines.take stop).drop start
    some { b with lines, cursor := lastOf lines, firstNumber := b.numberAt start }
  else none

/-- The cursor stays if it still names a line, and otherwise goes to the last one. -/
def keepCursor (cursor : Option Nat) (lines : List String) : Option Nat :=
  match cursor with
  | some i => if i < lines.length then some i else lastOf lines
  | none => lastOf lines

/-- Puts `new` in place of the lines from `start` up to but not including `stop`. Nothing is done
unless `start ≤ stop ≤ count`. -/
def splice? (start stop : Nat) (new : List String) : Option Buffer :=
  if start ≤ stop ∧ stop ≤ b.count then
    let lines := b.lines.take start ++ new ++ b.lines.drop stop
    some { b with lines, cursor := keepCursor b.cursor lines }
  else none

def render : String :=
  String.join (b.lines.map (· ++ b.ending.text))

end Buffer
end LineEditor
