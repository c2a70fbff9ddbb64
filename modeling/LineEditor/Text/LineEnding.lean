/-! Line terminators, and the one that a text uses most. -/
namespace LineEditor

inductive LineEnding where
  | lf
  | crlf
  | cr
  deriving DecidableEq, Repr, Inhabited

namespace LineEnding

def chars : LineEnding → List Char
  | lf => ['\n']
  | crlf => ['\r', '\n']
  | cr => ['\r']

def text (ending : LineEnding) : String :=
  String.ofList ending.chars

/-- The style that occurs most often. On equal counts CRLF goes before LF and LF before CR; a text
without terminators counts as LF. -/
def majority (found : List LineEnding) : LineEnding :=
  let crlfs := found.count crlf
  let lfs := found.count lf
  let crs := found.count cr
  if 0 < crlfs ∧ lfs ≤ crlfs ∧ crs ≤ crlfs then crlf
  else if crs ≤ lfs then lf
  else cr

def mixed (found : List LineEnding) : Bool :=
  found.any fun ending => found.any (· != ending)

end LineEnding
end LineEditor
