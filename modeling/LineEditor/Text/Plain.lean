/-! Text as a terminal shows it: without escape sequences and without control characters. White space
among the control characters stays, except for the vertical tab.

Sequences are made of ASCII characters. A character beyond ASCII has no part in a sequence that has
begun; it is passed over. -/
namespace LineEditor.Text

inductive EscapeState where
  | outside
  | begun
  | intermediate
  /-- In a control sequence, which ends with a letter or sign from `@` to `~`. -/
  | control
  /-- In a system command, which ends with the bell or another sequence. -/
  | command
  | device
  | parameters
  | marks
  /-- In a string that only its final byte or another sequence can end. -/
  | string
  deriving DecidableEq, Repr

/-- ASCII white space among the control characters. -/
def isLayout (c : Char) : Bool :=
  c == '\t' || c == '\n' || c == '\x0c' || c == '\r'

def isControl (c : Char) : Bool :=
  c.toNat < 0x20 || c.toNat == 0x7f

/-- The byte that ends a string also ends it as a part of a longer character. -/
def endsString (c : Char) : Bool :=
  (String.utf8EncodeChar c).contains 0x9c

def isShown (c : Char) : Bool :=
  isLayout c || !isControl c

/-- Whether a character is shown, and the state behind it. White space is shown even inside a sequence that
has no text of its own. -/
def EscapeState.step (state : EscapeState) (c : Char) : Bool × EscapeState :=
  let n := c.toNat
  let idle := isControl c || 0x7f < n
  if n = 0x1b then (false, .begun)
  else if n = 0x18 ∨ n = 0x1a then (false, .outside)
  else
    match state with
    | .outside => (isShown c, .outside)
    | .begun =>
      if isLayout c then (true, .begun)
      else if idle then (false, .begun)
      else if n ≤ 0x2f then (false, .intermediate)
      else if c = '[' then (false, .control)
      else if c = ']' then (false, .command)
      else if c = 'P' then (false, .device)
      else if c = 'X' ∨ c = '^' ∨ c = '_' then (false, .string)
      else (false, .outside)
    | .intermediate =>
      if isLayout c then (true, .intermediate)
      else (false, if idle ∨ n ≤ 0x2f then .intermediate else .outside)
    | .control =>
      if isLayout c then (true, .control)
      else (false, if idle ∨ n ≤ 0x3f then .control else .outside)
    | .command => (false, if n = 0x07 then .outside else .command)
    | .device =>
      (false, if idle then .device else if n ≤ 0x2f then .marks
        else if n ≤ 0x3f then .parameters else .string)
    | .parameters =>
      (false, if idle then .parameters else if n ≤ 0x2f then .marks
        else if n ≤ 0x3b then .parameters else .string)
    | .marks => (false, if idle ∨ n ≤ 0x2f then .marks else .string)
    | .string => (false, if endsString c then .outside else .string)

/-- The characters of a text, with nothing in the place of those that are not shown. A sequence is over
as soon as something is shown. -/
def scan : EscapeState → List Char → List (Option Char)
  | _, [] => []
  | state, c :: rest =>
    let (shown, state) := state.step c
    if shown then some c :: scan .outside rest else none :: scan state rest

def plain (text : String) : String :=
  String.ofList ((scan .outside text.toList).filterMap id)

/-- What a stream shows of a text. Here a sequence is not over when white space is shown, nor when
ASCII characters follow it: the next control character is taken for a part of the sequence. -/
def streamFrom (state : EscapeState) (interrupted : Bool) : List Char → List Char
  | [] => []
  | c :: rest =>
    if interrupted ∧ isShown c then
      c :: streamFrom (if 0x7f < c.toNat then .outside else state) true rest
    else
      let (shown, state) := state.step c
      if shown then c :: streamFrom state true rest else streamFrom state false rest

def streamed (text : String) : String :=
  String.ofList (streamFrom .outside false text.toList)

/-- A part of a text. Emphasis begins and ends with a sequence of its own, which ends any other that is
under way. -/
inductive Span where
  | text (s : String)
  | strong (s : String)
  deriving DecidableEq, Repr

namespace Span

def runs (run : String) : List Span → List String
  | [] => [run]
  | .text s :: rest => runs (run ++ s) rest
  | .strong s :: rest => run :: s :: runs "" rest

/-- A text without its emphasis. A sequence does not reach beyond its run. -/
def plain (spans : List Span) : String :=
  String.join ((runs "" spans).map Text.plain)

def streamed (spans : List Span) : String :=
  String.join ((runs "" spans).map Text.streamed)

end Span
end LineEditor.Text
