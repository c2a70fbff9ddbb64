import LineEditor.Number.Integer
import LineEditor.Text.Alphanumeric
import LineEditor.Text.Reader

/-! Regular expressions, and what may stand for a single character in them.

A pattern is only checked here, for whether it could be matched against text without tables of the
properties of characters. So it cannot ignore the case of all letters or ask for all digits; it can do so
for ASCII, where it says that it is about bytes, and must then not match parts of other characters. -/
namespace LineEditor.Pattern

structure Flags where
  /-- The pattern is about characters, not about bytes. -/
  unicode : Bool
  ignoreCase : Bool
  /-- White space and comments between the elements do not count. -/
  spaced : Bool
  deriving DecidableEq, Repr

namespace Flags

def initial : Flags :=
  ⟨true, false, false⟩

/-- Sets or clears the flag of a letter. Some flags make no difference here. -/
def set? (f : Flags) (letter : Char) (on : Bool) : Option Flags :=
  match letter with
  | 'u' => some { f with unicode := on }
  | 'i' => some { f with ignoreCase := on }
  | 'x' => some { f with spaced := on }
  | 'm' | 's' | 'R' | 'U' => some f
  | _ => none

def skipSpaced (comment : Bool) : List Char → List Char
  | [] => []
  | c :: rest =>
    if comment then skipSpaced (c != '\n') rest
    else if Text.isBlank c then skipSpaced false rest
    else if c = '#' then skipSpaced true rest
    else c :: rest

def skip (f : Flags) (text : List Char) : List Char :=
  if f.spaced then skipSpaced false text else text

/-- A look at the next character that counts, where a comment ends with its mark. -/
def peek? (f : Flags) (text : List Char) : Option Char :=
  if f.spaced then
    match text.dropWhile Text.isBlank with
    | '#' :: rest => (rest.dropWhile Text.isBlank).head?
    | rest => rest.head?
  else text.head?

/-- Whether a character may stand for itself. A byte beyond ASCII is only a part of a character. -/
def allowsLiteral (f : Flags) (c : Char) (byte : Bool) : Bool :=
  if f.unicode then !f.ignoreCase else !(byte && 0x7f < c.toNat)

def allowsMember (f : Flags) (c : Char) : Bool :=
  if f.unicode then !f.ignoreCase else c.toNat ≤ 0x7f

def allowsKind (f : Flags) (negated : Bool) : Bool :=
  !f.unicode && !negated

def allowsClass (f : Flags) (negated : Bool) : Bool :=
  if f.unicode then !f.ignoreCase else !negated

def allowsComplement (f : Flags) : Bool :=
  f.unicode

end Flags

inductive Escape where
  /-- A character, perhaps given as the number of a byte. -/
  | literal (c : Char) (byte : Bool)
  | kind (negated : Bool)
  | anchor
  | wordBoundary
  deriving DecidableEq, Repr

def hexDigits? (f : Flags) : Nat → List Char → Option (List Char × List Char)
  | 0, text => some ([], text)
  | n + 1, c :: rest =>
    if Number.isHexDigit c then
      (hexDigits? f n (f.skip rest)).map fun (digits, rest) => (c :: digits, rest)
    else none
  | _ + 1, [] => none

def hexEscape? (f : Flags) (n : Nat) (text : List Char) : Option (Escape × List Char) := do
  let (digits, rest) ← hexDigits? f n (f.skip text)
  return (.literal (← Number.charOfHex? digits) (n = 2), rest)

/-- What stands behind a backslash. A sign of ASCII always stands for itself. -/
def escape? (f : Flags) : List Char → Option (Escape × List Char)
  | [] => none
  | c :: rest =>
    match c with
    | 'x' => hexEscape? f 2 rest
    | 'u' => hexEscape? f 4 rest
    | 'U' => hexEscape? f 8 rest
    | 'd' | 's' | 'w' => some (.kind false, rest)
    | 'D' | 'S' | 'W' => some (.kind true, rest)
    | 'A' | 'z' => some (.anchor, rest)
    | 'b' | 'B' | '<' | '>' => some (.wordBoundary, rest)
    | 'a' => some (.literal '\x07' false, rest)
    | 't' => some (.literal '\t' false, rest)
    | 'n' => some (.literal '\n' false, rest)
    | 'v' => some (.literal '\x0b' false, rest)
    | 'f' => some (.literal '\x0c' false, rest)
    | 'r' => some (.literal '\r' false, rest)
    | c => if c.isAlphanum || 0x7f < c.toNat then none else some (.literal c false, rest)

/-- How deep something is that is put together from parts. A single part stands for itself. -/
def combined : List Nat → Nat
  | [] => 0
  | [depth] => depth
  | depths => 1 + depths.foldl max 0

end LineEditor.Pattern
