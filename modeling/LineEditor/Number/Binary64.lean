import LineEditor.Number.Integer

/-! Floating point numbers of the IEEE 754 format binary64, read from decimal text.

A decimal is an exact fraction of natural numbers; it is rounded once, to the nearest number of the
format, ties going to the even one. -/
namespace LineEditor.Number

structure Binary64 where
  bits : Nat
  deriving DecidableEq, Repr

inductive FloatError where
  | empty
  | invalid
  deriving DecidableEq, Repr

def FloatError.message : FloatError → String
  | empty => "cannot parse float from empty string"
  | invalid => "invalid float literal"

namespace Binary64

def signBit : Nat := 0x8000000000000000

def infinityBits : Nat := 0x7FF0000000000000

def nanBits : Nat := 0x7FF8000000000000

def magnitude (x : Binary64) : Nat :=
  x.bits % signBit

def isNaN (x : Binary64) : Bool :=
  infinityBits < x.magnitude

/-- The quotient rounded to the nearest integer, a half to the even one. -/
def roundDiv (n d : Nat) : Nat :=
  let q := n / d
  let twice := 2 * (n % d)
  if twice < d then q
  else if d < twice then q + 1
  else q + q % 2

/-- The greatest `e` with `2 ^ e ≤ n / d`, for positive `n` and `d`. -/
def binaryExponent (n d : Nat) : Int :=
  let e : Int := Int.ofNat n.log2 - Int.ofNat d.log2
  if d * Nat.pow 2 e.toNat ≤ n * Nat.pow 2 (-e).toNat then e else e - 1

/-- The bits of the number nearest to `n / d`. The significand is an integer below `2 ^ 53`, counted
in units of `2 ^ scale`; a carry out of it moves into the exponent by itself. -/
def bitsOfFraction (n d : Nat) : Nat :=
  if n = 0 then 0
  else
    let scale := Max.max (binaryExponent n d - 52) (-1074)
    let significand := roundDiv (n * Nat.pow 2 (-scale).toNat) (d * Nat.pow 2 scale.toNat)
    Nat.min ((scale + 1074).toNat * 0x10000000000000 + significand) infinityBits

def ofFraction (n d : Nat) : Binary64 :=
  ⟨bitsOfFraction n d⟩

def fraction (x : Binary64) : Nat × Nat :=
  let exponent := x.magnitude / 0x10000000000000
  let digits := x.magnitude % 0x10000000000000
  let (significand, scale) : Nat × Int :=
    if exponent = 0 then (digits, -1074)
    else (0x10000000000000 + digits, Int.ofNat exponent - 1075)
  (significand * Nat.pow 2 scale.toNat, Nat.pow 2 (-scale).toNat)

def addMagnitudes (x y : Binary64) : Binary64 :=
  ofFraction (x.fraction.1 * y.fraction.2 + y.fraction.1 * x.fraction.2)
    (x.fraction.2 * y.fraction.2)

def divMagnitude (x : Binary64) (parts : Nat) : Binary64 :=
  ofFraction x.fraction.1 (x.fraction.2 * parts)

/-- The bits of the number nearest to `digits · 10 ^ exponent`. Beyond the range of the format the
power of ten is not computed. -/
def bitsOfDecimal (digits : List Char) (exponent : Int) : Nat :=
  let n := digitsValue digits
  let size : Int := (digits.dropWhile (· = '0')).length + exponent
  if n = 0 ∨ size < -330 then 0
  else if 310 < size then infinityBits
  else bitsOfFraction (n * Nat.pow 10 exponent.toNat) (Nat.pow 10 (-exponent).toNat)

/-- The exponent part of a decimal: nothing, or `e`, an optional sign and digits. -/
def readExponent : List Char → Except FloatError Int
  | [] => .ok 0
  | e :: rest =>
    if e = 'e' ∨ e = 'E' then
      let (negative, digits) := match rest with
        | '+' :: digits => (false, digits)
        | '-' :: digits => (true, digits)
        | digits => (false, digits)
      if digits.isEmpty ∨ digits.any (!·.isDigit) then .error .invalid
      else
        let n : Int := digitsValue digits
        .ok (if negative then -n else n)
    else .error .invalid

/-- The magnitude of an unsigned decimal. Digits may be missing on one side of the point. -/
def readMagnitude (text : List Char) : Except FloatError Nat := do
  let whole := text.takeWhile Char.isDigit
  let rest := text.dropWhile Char.isDigit
  let (fraction, rest) := match rest with
    | '.' :: rest => (rest.takeWhile Char.isDigit, rest.dropWhile Char.isDigit)
    | rest => ([], rest)
  if whole.isEmpty ∧ fraction.isEmpty then throw .invalid
  let exponent ← readExponent rest
  return bitsOfDecimal (whole ++ fraction) (exponent - fraction.length)

/-- A magnitude, or the name of a special value in any mix of cases. -/
def readUnsigned (text : List Char) : Except FloatError Nat :=
  let name := text.map Char.toLower
  if name = "inf".toList ∨ name = "infinity".toList then .ok infinityBits
  else if name = "nan".toList then .ok nanBits
  else readMagnitude text

def parse : List Char → Except FloatError Binary64
  | [] => .error .empty
  | '-' :: rest => (readUnsigned rest).map fun bits => ⟨signBit + bits⟩
  | '+' :: rest => (readUnsigned rest).map (⟨·⟩)
  | text => (readUnsigned text).map (⟨·⟩)

end Binary64
end LineEditor.Number
