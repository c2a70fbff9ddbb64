import LineEditor.Number.Binary64
import LineEditor.Toml.Value

/-! Values without quotes: truth values, numbers, dates and times. -/
namespace LineEditor.Toml

open Number (isHexDigit hexDigitValue)

def isScalarChar (c : Char) : Bool :=
  c.isAlphanum || c == '+' || c == '-' || c == '_' || c == '.' || c == ':'

/-- Digits with single underscores between them, without the underscores. -/
def groupedDigits? (isDigit : Char → Bool) : List Char → Option (List Char)
  | [] => none
  | [c] => if isDigit c then some [c] else none
  | c :: '_' :: rest => if isDigit c then (groupedDigits? isDigit rest).map (c :: ·) else none
  | c :: rest => if isDigit c then (groupedDigits? isDigit rest).map (c :: ·) else none

/-- A decimal number without a sign does not begin with zero unless it is zero. -/
def decimalDigits? (text : List Char) : Option (List Char) := do
  let digits ← groupedDigits? Char.isDigit text
  if digits.length > 1 ∧ digits.head? = some '0' then none else some digits

def cutSign : List Char → Option Char × List Char
  | '+' :: rest => (some '+', rest)
  | '-' :: rest => (some '-', rest)
  | rest => (none, rest)

def baseDigits? (base : Nat) (text : List Char) : Option Int := do
  let digits ← groupedDigits? (fun c => isHexDigit c && hexDigitValue c < base) text
  return Int.ofNat (digits.foldl (fun n c => base * n + hexDigitValue c) 0)

def integer? (text : List Char) : Option Int :=
  match text with
  | '0' :: 'x' :: rest => baseDigits? 16 rest
  | '0' :: 'o' :: rest => baseDigits? 8 rest
  | '0' :: 'b' :: rest => baseDigits? 2 rest
  | _ => do
    let (sign, rest) := cutSign text
    let n : Int := Number.digitsValue (← decimalDigits? rest)
    return if sign = some '-' then -n else n

/-- The integers that a document may hold: those of 128 bits with or without a sign. -/
def fitsInteger (n : Int) : Bool :=
  -0x80000000000000000000000000000000 ≤ n && n < 0x100000000000000000000000000000000

/-- A decimal with a fraction or an exponent, or the name of a special value. A decimal beyond the
largest number is not accepted. -/
def isFloat (text : List Char) : Bool :=
  let (_, rest) := cutSign text
  if rest = "inf".toList ∨ rest = "nan".toList then true
  else
    let whole := rest.takeWhile fun c => c.isDigit || c == '_'
    let rest := rest.dropWhile fun c => c.isDigit || c == '_'
    let (fraction, rest) := match rest with
      | '.' :: rest =>
        (some (rest.takeWhile fun c => c.isDigit || c == '_'),
          rest.dropWhile fun c => c.isDigit || c == '_')
      | rest => (none, rest)
    let exponent := match rest with
      | [] => none
      | _ :: digits => some (cutSign digits).2
    let marked := match rest with
      | [] => true
      | e :: _ => e == 'e' || e == 'E'
    let digits? (part : Option (List Char)) : Bool :=
      part.all fun text => (groupedDigits? Char.isDigit text).isSome
    (decimalDigits? whole).isSome && marked && digits? fraction && digits? exponent &&
      (fraction.isSome || exponent.isSome) &&
      match Number.Binary64.parse (text.filter (· != '_')) with
      | .ok x => x.magnitude != Number.Binary64.infinityBits
      | .error _ => false

def fixedDigits? (n : Nat) (text : List Char) : Option (Nat × List Char) :=
  let digits := text.take n
  if digits.length = n ∧ digits.all Char.isDigit then
    some (Number.digitsValue digits, text.drop n)
  else none

def expect? (c : Char) : List Char → Option (List Char)
  | d :: rest => if c = d then some rest else none
  | [] => none

def daysInMonth (year month : Nat) : Nat :=
  if month = 2 then
    if (year % 4 = 0 ∧ year % 100 ≠ 0) ∨ year % 400 = 0 then 29 else 28
  else if month = 4 ∨ month = 6 ∨ month = 9 ∨ month = 11 then 30
  else 31

def date? (text : List Char) : Option (List Char) := do
  let (year, rest) ← fixedDigits? 4 text
  let (month, rest) ← fixedDigits? 2 (← expect? '-' rest)
  let (day, rest) ← fixedDigits? 2 (← expect? '-' rest)
  if 1 ≤ month ∧ month ≤ 12 ∧ 1 ≤ day ∧ day ≤ daysInMonth year month then some rest else none

def clock? (text : List Char) : Option (List Char) := do
  let (hour, rest) ← fixedDigits? 2 text
  let (minute, rest) ← fixedDigits? 2 (← expect? ':' rest)
  if hour ≤ 23 ∧ minute ≤ 59 then some rest else none

/-- A time of day at the head of a text, with or without seconds. A minute may have a second numbered 60. -/
def time? (text : List Char) : Option (List Char) := do
  let rest ← clock? text
  match rest with
  | ':' :: rest =>
    let (second, rest) ← fixedDigits? 2 rest
    if 60 < second then none
    else match rest with
      | '.' :: rest =>
        if (rest.takeWhile Char.isDigit).isEmpty then none else some (rest.dropWhile Char.isDigit)
      | rest => some rest
  | rest => some rest

def isOffset : List Char → Bool
  | [] => true
  | ['Z'] | ['z'] => true
  | '+' :: rest | '-' :: rest => clock? rest = some []
  | _ => false

def isDateTime (text : List Char) : Bool :=
  time? text = some [] ||
    match date? text with
    | none => false
    | some [] => true
    | some (c :: rest) =>
      (c == 'T' || c == 't' || c == ' ') &&
        match time? rest with
        | some offset => isOffset offset
        | none => false

def scalarOfText? (text : List Char) : Option Value :=
  if text = "true".toList then some (.boolean true)
  else if text = "false".toList then some (.boolean false)
  else if isDateTime text then some .dateTime
  else if isFloat text then some .float
  else (integer? text).bind fun n => if fitsInteger n then some (.integer n) else none

/-- A value without quotes at the head of a text. A date and a time may have one space between them. -/
def scalar? (text : List Char) : Option (Value × List Char) := do
  let head := text.takeWhile isScalarChar
  let rest := text.dropWhile isScalarChar
  let (head, rest) := match date? head, rest with
    | some [], ' ' :: c :: later =>
      if c.isDigit then
        (head ++ ' ' :: (c :: later).takeWhile isScalarChar, (c :: later).dropWhile isScalarChar)
      else (head, rest)
    | _, _ => (head, rest)
  return (← scalarOfText? head, rest)

end LineEditor.Toml
