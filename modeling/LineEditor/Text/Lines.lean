import LineEditor.Text.LineEnding

/-! Two ways to cut a text into lines without terminators.

`Loaded.ofText` reads a stored text: LF, CRLF and a lone CR all end a line, and a final terminator
does not start another line. `splitTyped` reads text typed into a command: only LF and CRLF separate
lines, and a final separator leaves an empty line behind. -/
namespace LineEditor.Text

/-- Puts one character in front of a text that is already cut into terminated lines and a tail.
A CR that meets an empty line ended by LF stands directly before that LF and joins it. -/
def cutStep (c : Char) : List (List Char × LineEnding) × List Char →
    List (List Char × LineEnding) × List Char
  | (cut, tail) =>
    if c = '\n' then (([], .lf) :: cut, tail)
    else if c = '\r' then
      match cut with
      | ([], .lf) :: later => (([], .crlf) :: later, tail)
      | _ => (([], .cr) :: cut, tail)
    else
      match cut with
      | (line, ending) :: later => ((c :: line, ending) :: later, tail)
      | [] => ([], c :: tail)

/-- The terminated lines of a text, each with its terminator, and the text after the last
terminator. -/
def cut (text : List Char) : List (List Char × LineEnding) × List Char :=
  text.foldr cutStep ([], [])

structure Loaded where
  lines : List String
  ending : LineEnding
  mixed : Bool
  deriving DecidableEq, Repr

/-- An unterminated tail is a line of its own unless it is empty. -/
def Loaded.ofChars (text : List Char) : Loaded :=
  let (terminated, tail) := cut text
  let endings := terminated.map (·.2)
  let lines := terminated.map (·.1) ++ if tail.isEmpty then [] else [tail]
  ⟨lines.map String.ofList, LineEnding.majority endings, LineEnding.mixed endings⟩

def Loaded.ofText (text : String) : Loaded :=
  .ofChars text.toList

/-- Cuts at every occurrence of a separator; there is always at least one piece. -/
def splitAt (separator : Char) (text : List Char) : List (List Char) :=
  text.foldr
    (fun c pieces =>
      if c = separator then [] :: pieces
      else match pieces with
        | piece :: later => (c :: piece) :: later
        | [] => [[c]])
    [[]]

def dropFinalCR (line : List Char) : List Char :=
  if line.getLast? = some '\r' then line.dropLast else line

def splitTyped (text : String) : List String :=
  (splitAt '\n' text.toList).map fun line => String.ofList (dropFinalCR line)

end LineEditor.Text
