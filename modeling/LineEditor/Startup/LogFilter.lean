import LineEditor.Number.Binary64
import LineEditor.Pattern.Check

/-! Filters that say what is logged: directives with commas between them. A directive is the name of a
level, or names a part of the program, a span of work in brackets, or both, with an equals sign and a
level behind them. One that cannot be understood is passed over with a remark.

White space around a directive does not count when its signs are looked for, and their places are counted
without it. The parts between the signs are then taken from these places of the whole directive, so
behind white space every part begins and ends too early. -/
namespace LineEditor.Startup.LogFilter

inductive DirectiveError where
  | malformed
  | unknownLevel
  | badPattern (e : Pattern.Error)
  deriving DecidableEq, Repr

def DirectiveError.message : DirectiveError → String
  | malformed => "invalid filter directive"
  | unknownLevel =>
    "error parsing level filter: expected one of \"off\", \"error\", \"warn\", \"info\", \"debug\", " ++
      "\"trace\", or a number 0-5"
  | badPattern e => "invalid field filter: " ++ e.message

inductive Fault where
  | passedOver (e : DirectiveError)
  /-- A part would begin or end inside a character. Then the whole filter is of no use. -/
  | torn
  deriving DecidableEq, Repr

/-! ## Parts of a directive -/

def levelNames : List String :=
  ["off", "error", "warn", "info", "debug", "trace"]

/-- The number of a level, which may begin with a plus sign and with zeros. -/
def isLevelNumber (text : List Char) : Bool :=
  let digits := match text with
    | '+' :: digits => digits
    | digits => digits
  match digits.dropWhile (· == '0') with
  | [] => !digits.isEmpty
  | [c] => '1' ≤ c && c ≤ '5'
  | _ => false

/-- What stands behind an equals sign. Nothing stands for the most detailed level. -/
def checkLevel (text : List Char) : Except Fault Unit :=
  if text.isEmpty || isLevelNumber text || levelNames.contains (String.ofList (text.map Char.toLower))
  then .ok ()
  else .error (.passedOver .unknownLevel)

/-- The value of a field is a truth value, a number or a pattern. What stands behind a second equals sign
does not count. -/
def checkField (text : List Char) : Except Fault Unit :=
  if text.isEmpty then .error (.passedOver .malformed)
  else
    let value := ((text.dropWhile (· != '=')).drop 1).takeWhile (· != '=')
    if value = "true".toList ∨ value = "false".toList ∨ (Number.Binary64.parse value).isOk then .ok ()
    else
      match Pattern.check value with
      | some e => .error (.passedOver (.badPattern e))
      | none => .ok ()

/-- A text without its first `n` bytes, if these are whole characters. -/
def dropBytes? : Nat → List Char → Option (List Char)
  | 0, text => some text
  | _ + 1, [] => none
  | n, c :: rest => if c.utf8Size ≤ n then dropBytes? (n - c.utf8Size) rest else none

def takeBytes? : Nat → List Char → Option (List Char)
  | 0, _ => some []
  | _ + 1, [] => none
  | n, c :: rest =>
    if c.utf8Size ≤ n then (takeBytes? (n - c.utf8Size) rest).map (c :: ·) else none

/-- The part of a directive between two places, counted in bytes. -/
def part (directive : List Char) (first last : Nat) : Except Fault (List Char) :=
  match (dropBytes? first directive).bind (takeBytes? (last - first)) with
  | some text => .ok text
  | none => .error .torn

/-! ## Directives -/

inductive Stage where
  | start
  | name
  | span (first : Nat)
  | field (first : Nat)
  /-- The end of the span behind its fields. -/
  | afterFields
  | afterSpan
  | level (first : Nat)
  deriving DecidableEq, Repr

def isNameStart (c : Char) : Bool :=
  Text.isAlphanumeric c || c == '-' || c == ':' || c == '_'

def Stage.next (directive : List Char) (stage : Stage) (place : Nat) (c : Char) :
    Except Fault Stage := do
  match stage, c with
  | .start, '[' => return .span (place + 1)
  | .start, c => if isNameStart c then return .name else throw (.passedOver .malformed)
  | .name, '=' => let _ ← part directive 0 place; return .level (place + 1)
  | .name, '[' => let _ ← part directive 0 place; return .span (place + 1)
  | .span first, ']' => let _ ← part directive first place; return .afterSpan
  | .span first, '\x7b' => let _ ← part directive first place; return .field (place + 1)
  | .field first, '\x7d' => checkField (← part directive first place); return .afterFields
  | .afterFields, ']' => return .afterSpan
  | .afterSpan, '=' => return .level (place + 1)
  | .afterFields, _ | .afterSpan, _ => throw (.passedOver .malformed)
  | stage, _ => return stage

def Stage.finish (directive : List Char) : Stage → Except Fault Unit
  | .name | .afterSpan => .ok ()
  | .level first =>
    match dropBytes? first directive with
    | some text => checkLevel text
    | none => .error .torn
  | .start | .span _ | .field _ | .afterFields => .error (.passedOver .malformed)

def trim (text : List Char) : List Char :=
  ((text.dropWhile Text.isBlank).reverse.dropWhile Text.isBlank).reverse

def check (directive : List Char) : Except Fault Unit := do
  let (stage, _) ← (trim directive).foldlM
    (fun (stage, place) c => do return (← Stage.next directive stage place c, place + c.utf8Size))
    (Stage.start, 0)
  stage.finish directive

/-! ## Filters -/

structure Reading where
  remarks : String
  usable : Bool
  deriving DecidableEq, Repr

/-- Reads one directive, unless the filter is known to be of no use. -/
def Reading.add (r : Reading) (directive : String) : Reading :=
  if r.usable then
    match check directive.toList with
    | .ok () => r
    | .error .torn => { r with usable := false }
    | .error (.passedOver e) =>
      { r with remarks := r.remarks ++ "ignoring `" ++ directive ++ "`: " ++ e.message ++ "\n" }
  else r

def read (filter : String) : Reading :=
  ((filter.splitOn ",").filter (!·.isEmpty)).foldl Reading.add ⟨"", true⟩

end LineEditor.Startup.LogFilter
