import LineEditor.Commands

/-! Doing what one line of command text says.

A text may begin with a range. With nothing behind it the lines of the range are shown. Otherwise the
rest of the text is done on a slice of the document, which may begin with a range again, and the slice
is put back when that has succeeded. A text without a range is a command name with its arguments and
works on the document as it is. -/
namespace LineEditor

/-- What a range reader reports; it keeps silent if there is no range. -/
def RangeReader.report (r : RangeReader) :
    Except AddressError (Option ParsedRange) → Action Unit
  | .ok (some p) => .report (.rangeParsed p.range p.moved)
  | .ok none => Action.pure ()
  | .error e => .report (.rangeRejected e r.moved)

/-- Reads a range at the head of a text. The current line moves where `;` puts it, even if the rest of
the range cannot be read. -/
def readRange (text : List Char) : Action (Option ParsedRange) := do
  let b ← .buffer
  let (parsed, reader) := (RangeReader.new b.cursor b.count).read text
  reader.report parsed
  .edit fun b => reader.moved.elim b b.moveTo
  .ofExcept (parsed.mapError .address)

def readCommand (text : List Char) : Except CommandError CommandLine :=
  match words text with
  | .error e => .error (.words e)
  | .ok found =>
    match CommandLine.ofWords? found with
    | none => .error .noCommand
    | some line => .ok line

def runCommand (registry : Registry) (depth : Nat) (text : List Char) : Action Flow := do
  let line ← .ofExcept (readCommand text)
  match registry.get? line.name with
  | none => .fail (.unknownCommand line.name)
  | some command =>
    .report (.commandInvoked depth command.name line.arguments.length (← .buffer).count)
    command.run registry.catalogue line.arguments

def cutOut (range : LineRange) : Action Buffer := do
  let b ← .buffer
  match b.slice? range.start range.stop with
  | some slice => return slice
  | none => .fail (.bounds range.start range.stop b.count)

/-- What the document takes over from a slice that is put back: its file, and its terminator if there
was nothing in the document. -/
def adopt (slice : Buffer) (b : Buffer) : Buffer :=
  let b := { b with file := slice.file.or b.file }
  if b.isEmpty then { b with ending := slice.ending } else b

def putBack (depth : Nat) (range : LineRange) (slice : Buffer) : Action Unit := do
  .edit (adopt slice)
  let b ← .buffer
  match b.splice? range.start range.stop slice.lines with
  | none => .fail (.bounds range.start range.stop b.count)
  | some b =>
    .setBuffer b
    .report (.spliced range slice.count b.count b.cursor)
    .report (.rangeSpliced depth range slice.count)

/-- Shows the lines of a range and makes the last of them current. -/
def showRange (depth : Nat) (range : LineRange) (slice : Buffer) : Action Flow := do
  let _ ← .on slice Commands.printLines
  .edit fun b => range.last?.elim b b.moveTo
  .report (.bareRange depth range)
  return .proceed

/-- Does a text that stands behind `maxDepth - 1 - levels` ranges, and may hold `levels` more that
have something behind them. -/
def executeAt (registry : Registry) (levels : Nat) (text : List Char) : Action Flow := do
  let depth := maxDepth - 1 - levels
  match ← readRange text with
  | none => runCommand registry depth text
  | some parsed =>
    let slice ← cutOut parsed.range
    if Text.allBlank parsed.rest then showRange depth parsed.range slice
    else match levels with
      | 0 =>
        .report (.nestingRejected depth)
        .fail .nestingTooDeep
      | levels + 1 =>
        let (flow, slice) ← .on slice (executeAt registry levels parsed.rest)
        putBack depth parsed.range slice
        return flow

def execute (registry : Registry) (text : String) : Action Flow :=
  executeAt registry (maxDepth - 1) text.toList

end LineEditor
