import LineEditor.Number.Integer

/-! Addresses: how a command text names one line.

An address is a line number `N`, an offset from the current line (`+`, `+N`, `-`, `-N`), `.` for the
current line or `$` for the last one. Digit runs start with `1` to `9`. Anything else is no address,
which is not an error. A resolved address is a position counted from zero; it may lie outside the
document until `validate` has seen it. -/
namespace LineEditor

inductive Endpoint where
  | first
  | last
  deriving DecidableEq, Repr

def Endpoint.name : Endpoint → String
  | first => "first"
  | last => "last"

inductive AddressError where
  | noCurrentLine
  | outOfRange (index : Int) (count : Nat) (which : Endpoint)
  | invalidRange (first last : Nat)
  deriving DecidableEq, Repr

/-- Positions are shown counted from one. -/
def AddressError.message : AddressError → String
  | noCurrentLine => "no current line"
  | outOfRange index count which =>
    let shown := Number.Integer.saturate (index + 1)
    s!"{which.name} address {shown} is out of range (buffer has {count} lines)"
  | invalidRange first last =>
    s!"last address {last + 1} precedes first address {first + 1}"

namespace Address

structure Resolved where
  rest : List Char
  index : Int
  deriving DecidableEq, Repr

def startsNumber : List Char → Bool
  | c :: _ => c.isDigit && c != '0'
  | [] => false

/-- A digit run that does not start with zero, and the text behind it. Numbers that 64 bits cannot
hold count as the largest that they can. -/
def number? (text : List Char) : Option (Int × List Char) :=
  if startsNumber text then
    some (Number.Integer.saturate (Number.digitsValue (text.takeWhile Char.isDigit)),
      text.dropWhile Char.isDigit)
  else none

def current (cursor : Option Nat) : Except AddressError Int :=
  match cursor with
  | some i => .ok (Number.Integer.ofCount i)
  | none => .error .noCurrentLine

/-- The length of an offset, which is one unless a number follows the sign. -/
def step (text : List Char) : Int × List Char :=
  (number? text).getD (1, text)

def resolve (cursor : Option Nat) (count : Nat) (text : List Char) :
    Except AddressError (Option Resolved) :=
  match number? text, text with
  | some (n, rest), _ => .ok (some ⟨rest, n - 1⟩)
  | none, '+' :: tail => do
    let here ← current cursor
    let (n, rest) := step tail
    return some ⟨rest, Number.Integer.saturate (here + n)⟩
  | none, '-' :: tail => do
    let here ← current cursor
    let (n, rest) := step tail
    return some ⟨rest, Number.Integer.saturate (here - n)⟩
  | none, '.' :: tail => do
    let here ← current cursor
    return some ⟨tail, here⟩
  | none, '$' :: tail => do
    let _ ← current cursor
    return some ⟨tail, Number.Integer.ofCount count - 1⟩
  | none, _ => .ok none

def validate (index : Int) (count : Nat) (which : Endpoint) : Except AddressError Nat :=
  if 0 ≤ index ∧ index < count then .ok index.toNat
  else .error (.outOfRange index count which)

end Address
end LineEditor
