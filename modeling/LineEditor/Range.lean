import LineEditor.Address

/-! Ranges of lines: `[ADDRESS] [(',' | ';') [ADDRESS]]` at the head of a command text.

With `,` a missing first address is line 1. With `;` it is the current line, and the first address
becomes the current line before the second is read, so `5;+2` means lines 5 to 7. In both cases a
missing second address is the last line. An address alone is a range of one line, and nothing at all
is no range. The move made by `;` outlives a failure later in the same range. -/
namespace LineEditor

/-- The lines from `start` up to but not including `stop`, counted from zero. -/
structure LineRange where
  start : Nat
  stop : Nat
  deriving DecidableEq, Repr

namespace LineRange

def length (r : LineRange) : Nat :=
  r.stop - r.start

def isEmpty (r : LineRange) : Bool :=
  r.start == r.stop

def last? (r : LineRange) : Option Nat :=
  if r.isEmpty then none else some (r.stop - 1)

end LineRange

structure ParsedRange where
  rest : List Char
  range : LineRange
  moved : Option Nat
  deriving DecidableEq, Repr

/-- Reads ranges over a document of `count` lines and keeps what `;` has done to the current line. -/
structure RangeReader where
  count : Nat
  cursor : Option Nat
  moved : Option Nat
  deriving DecidableEq, Repr

namespace RangeReader

def new (cursor : Option Nat) (count : Nat) : RangeReader :=
  ⟨count, cursor, none⟩

def endpoint (r : RangeReader) (which : Endpoint) (text : List Char) :
    Except AddressError (Option (Nat × List Char)) := do
  match ← Address.resolve r.cursor r.count text with
  | none => return none
  | some found =>
    let index ← Address.validate found.index r.count which
    return some (index, found.rest)

def finish (r : RangeReader) (first : Nat) (text : List Char) : Except AddressError ParsedRange := do
  match ← r.endpoint .last text with
  | none => return ⟨text, ⟨first, r.count⟩, r.moved⟩
  | some (last, rest) =>
    if last < first then throw (.invalidRange first last)
    return ⟨rest, ⟨first, last + 1⟩, r.moved⟩

def moveTo (r : RangeReader) (first : Nat) : RangeReader :=
  { r with cursor := some first, moved := some first }

/-- Reads a range at the head of a text. The reader comes back also from a failure. -/
def read (r : RangeReader) (text : List Char) :
    Except AddressError (Option ParsedRange) × RangeReader :=
  match r.endpoint .first text with
  | .error e => (.error e, r)
  | .ok first =>
    match first.elim text (·.2) with
    | ',' :: rest => ((r.finish ((first.map (·.1)).getD 0) rest).map some, r)
    | ';' :: rest =>
      match (first.map (·.1)).or r.cursor with
      | none => (.error .noCurrentLine, r)
      | some start => (((r.moveTo start).finish start rest).map some, r.moveTo start)
    | _ => (.ok (first.map fun (i, rest) => ⟨rest, ⟨i, i + 1⟩, none⟩), r)

end RangeReader
end LineEditor
