/-! Numbers in digits: decimal runs without a bound, signed decimal numbers of 64 bits read from a whole
text, and characters given in hexadecimal. -/
namespace LineEditor.Number

def digitValue (c : Char) : Nat :=
  c.toNat - '0'.toNat

def digitsValue (digits : List Char) : Nat :=
  digits.foldl (fun n c => 10 * n + digitValue c) 0

inductive IntegerError where
  | empty
  | invalidDigit
  | tooLarge
  | tooSmall
  deriving DecidableEq, Repr

def IntegerError.message : IntegerError → String
  | empty => "cannot parse integer from empty string"
  | invalidDigit => "invalid digit found in string"
  | tooLarge => "number too large to fit in target type"
  | tooSmall => "number too small to fit in target type"

namespace Integer

def max : Int := 0x7FFFFFFFFFFFFFFF

def min : Int := -0x8000000000000000

def saturate (n : Int) : Int :=
  if n < min then min else if max < n then max else n

/-- A count of 64 bits read as a signed number: the upper half of all counts turns negative. -/
def ofCount (n : Nat) : Int :=
  Int.bmod n 0x10000000000000000

/-- Reads digits from the left and stops at the first one that is none or goes beyond `bound`. -/
def readDigits (bound : Nat) (beyond : IntegerError) : Nat → List Char → Except IntegerError Nat
  | n, [] => .ok n
  | n, c :: rest =>
    if c.isDigit then
      let n := 10 * n + digitValue c
      if bound < n then .error beyond else readDigits bound beyond n rest
    else .error .invalidDigit

/-- An optional sign and at least one digit. -/
def parse : List Char → Except IntegerError Int
  | [] => .error .empty
  | ['+'] | ['-'] => .error .invalidDigit
  | '+' :: digits => (readDigits 0x7FFFFFFFFFFFFFFF .tooLarge 0 digits).map Int.ofNat
  | '-' :: digits => (readDigits 0x8000000000000000 .tooSmall 0 digits).map fun n => -Int.ofNat n
  | digits => (readDigits 0x7FFFFFFFFFFFFFFF .tooLarge 0 digits).map Int.ofNat

end Integer

/-! ### Hexadecimal digits -/

def isHexDigit (c : Char) : Bool :=
  c.isDigit || ('a' ≤ c.toLower && c.toLower ≤ 'f')

def hexDigitValue (c : Char) : Nat :=
  if c.isDigit then c.toNat - '0'.toNat else c.toLower.toNat - 'a'.toNat + 10

def charOfHex? (digits : List Char) : Option Char :=
  if digits.all isHexDigit then
    let n := digits.foldl (fun n c => 16 * n + hexDigitValue c) 0
    if n.isValidChar then some (Char.ofNat n) else none
  else none

end LineEditor.Number
