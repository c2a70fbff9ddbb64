import LineEditor.Options.Grammar
import LineEditor.Text.Plain

/-! Reading the words behind a command name.

`--name value`, `--name=value`, `-n value`, `-nvalue` and `-n=value` give an option its value; `--`
makes every later word positional, and so is a word that does not start with `-`, and `-` alone. A
word that starts with `-` is never the value of the option before it. Help and version stop the
reading where they stand.

A value that is a word of its own is checked only when the next option or positional value begins or
the words end, so a mistake in how the words are put together is found before a bad value. -/
namespace LineEditor.Options

inductive ReadError where
  /-- There is no such option; with the options and values understood before it. -/
  | unknownLong (name : String) (given : List String)
  | unknownShort (letter : Char)
  | surplus (word : String)
  | unneededValue (value : String) (name : String) (given : List String)
  | valueRequired (shown : String)
  | repeated (shown : String)
  | invalidValue (value : String) (shown : String) (reason : String)
  | incomplete
  /-- A command looks for a value that its grammar does not promise. -/
  | absent (name : String)
  deriving DecidableEq, Repr

def ReadError.spans : ReadError → List Text.Span
  | unknownLong name _ =>
    [.text "unexpected argument '", .strong ("--" ++ name), .text "' found"]
  | unknownShort letter =>
    [.text "unexpected argument '", .strong (String.ofList ['-', letter]), .text "' found"]
  | surplus word => [.text "unexpected argument '", .strong word, .text "' found"]
  | unneededValue value name _ =>
    [.text "unexpected value '", .strong value, .text "' for '", .strong ("--" ++ name),
      .text "' found; no more were expected"]
  | valueRequired shown =>
    [.text "a value is required for '", .strong shown, .text "' but none was supplied"]
  | repeated shown =>
    [.text "the argument '", .strong shown, .text "' cannot be used multiple times"]
  | invalidValue value shown reason =>
    [.text "invalid value '", .strong value, .text "' for '", .strong shown, .text ("': " ++ reason)]
  | incomplete => [.text "the following required arguments were not provided:"]
  | absent name => [.text ("missing " ++ name)]

def ReadError.message (e : ReadError) : String :=
  Text.Span.plain e.spans

/-- The values found, in the order in which they were understood. -/
structure Values where
  found : List (String × Value)
  deriving DecidableEq, Repr

namespace Values

def get? (v : Values) (name : String) : Option Value :=
  (v.found.find? (·.1 == name)).map (·.2)

def text? (v : Values) (name : String) : Option String :=
  match v.get? name with
  | some (.text s) => some s
  | _ => none

def integer? (v : Values) (name : String) : Option Int :=
  match v.get? name with
  | some (.integer n) => some n
  | _ => none

def float? (v : Values) (name : String) : Option Number.Binary64 :=
  match v.get? name with
  | some (.float x) => some x
  | _ => none

def contains (v : Values) (name : String) : Bool :=
  v.found.any (·.1 == name)

def add (v : Values) (name : String) (value : Value) : Values :=
  ⟨v.found ++ [(name, value)]⟩

def names (v : Values) : List String :=
  v.found.map (·.1)

end Values

def Kind.read (kind : Kind) (shown : String) (text : String) : Except ReadError Value :=
  match kind with
  | .text => .ok (.text text)
  | .path => if text.isEmpty then .error (.valueRequired shown) else .ok (.text text)
  | .integer =>
    match Number.Integer.parse text.toList with
    | .ok n => .ok (.integer n)
    | .error e => .error (.invalidValue text shown e.message)
  | .float =>
    match Number.Binary64.parse text.toList with
    | .ok x => .ok (.float x)
    | .error e => .error (.invalidValue text shown e.message)

/-- An argument that has begun and is not understood yet. -/
inductive Pending where
  | open (o : Named)
  | named (o : Named) (text : String)
  | positional (p : Positional) (text : String)
  deriving DecidableEq, Repr

structure State where
  values : Values
  pending : Option Pending
  awaited : List Positional
  /-- The word `--` has been seen. -/
  literal : Bool
  deriving DecidableEq, Repr

inductive Stop where
  | help
  | version
  | failed (e : ReadError)
  deriving DecidableEq, Repr

namespace State

def start (g : Grammar) : State :=
  ⟨⟨[]⟩, none, g.positionals, false⟩

/-- Takes up an option with its value. An option may be given once. -/
def addNamed (s : State) (o : Named) (text : String) : Except ReadError State := do
  if s.values.contains o.name then throw (.repeated o.shown)
  let value ← o.kind.read o.shown text
  return { s with values := s.values.add o.name value }

def settle (s : State) : Except ReadError State :=
  let settled := { s with pending := none }
  match s.pending with
  | none => .ok s
  | some (.open o) => .error (.valueRequired o.shown)
  | some (.named o text) => settled.addNamed o text
  | some (.positional p text) => do
    let value ← p.kind.read p.shown text
    return { settled with values := s.values.add p.name value }

/-- The names given so far. A pending argument counts as soon as it has a value, and an option that
is given again does not count. -/
def given (s : State) : List String :=
  let names := s.values.names
  match s.pending with
  | none | some (.open _) => names
  | some (.named o _) =>
    if s.values.contains o.name then names.filter (· != o.name) else names ++ [o.name]
  | some (.positional p _) => names ++ [p.name]

def failing (e : Except ReadError State) : Except Stop State :=
  e.mapError .failed

/-- Stops for help or version, unless the pending argument is wrong. -/
def stopWith (s : State) (stop : Stop) : Except Stop State := do
  let _ ← failing s.settle
  throw stop

def option (s : State) (o : Named) : Option String → Except Stop State
  | some text => failing do (← s.settle).addNamed o text
  | none => failing do return { ← s.settle with pending := some (.open o) }

def long (g : Grammar) (s : State) (name : String) (value : Option String) : Except Stop State :=
  match g.named.find? (·.name == name) with
  | some o => s.option o value
  | none =>
    let flag := if name == "help" then some Stop.help
      else if name == "version" && g.version.isSome then some Stop.version
      else none
    match flag, value with
    | none, _ => throw (.failed (.unknownLong name s.given))
    | some _, some value => throw (.failed (.unneededValue value name s.values.names))
    | some stop, none => s.stopWith stop

/-- The letters behind a single `-`. The first one decides: flags stop the reading, and what follows
the letter of an option is its value. -/
def short (g : Grammar) (s : State) (letter : Char) (rest : List Char) : Except Stop State :=
  match g.named.find? (·.short == some letter) with
  | some o =>
    match rest with
    | [] => s.option o none
    | '=' :: value => s.option o (some (String.ofList value))
    | value => s.option o (some (String.ofList value))
  | none =>
    if letter = 'h' then s.stopWith .help
    else if letter = 'V' ∧ g.version.isSome then s.stopWith .version
    else throw (.failed (.unknownShort letter))

def positional (s : State) (word : String) : Except Stop State :=
  match s.awaited with
  | p :: awaited => failing do
    return { ← s.settle with pending := some (.positional p word), awaited }
  | [] => throw (.failed (.surplus word))

/-- A word without a leading `-`, or a literal one, is a value: of the option in front of it, or
positional. -/
def plainWord (s : State) (word : String) : Except Stop State :=
  match s.pending, s.literal with
  | some (.open o), false => .ok { s with pending := some (.named o word) }
  | _, _ => s.positional word

def cutAtEquals (text : List Char) : String × Option String :=
  (String.ofList (text.takeWhile (· != '=')),
    match text.dropWhile (· != '=') with
    | _ :: value => some (String.ofList value)
    | [] => none)

def next (g : Grammar) (s : State) (word : String) : Except Stop State :=
  if s.literal then s.positional word
  else
    match word.toList with
    | ['-', '-'] => .ok { s with literal := true }
    | '-' :: '-' :: text => let (name, value) := cutAtEquals text; s.long g name value
    | '-' :: letter :: rest => s.short g letter rest
    | _ => s.plainWord word

def addFallbacks (s : State) : List Named → Except ReadError State
  | [] => .ok s
  | o :: rest =>
    match o.fallback with
    | some text =>
      if s.values.contains o.name then s.addFallbacks rest
      else do (← s.addNamed o text).addFallbacks rest
    | none => s.addFallbacks rest

def finish (g : Grammar) (s : State) : Except ReadError Values := do
  let s ← s.settle
  let s ← s.addFallbacks g.named
  if g.positionals.any fun p => p.required && !s.values.contains p.name then throw .incomplete
  return s.values

end State

def Grammar.read (g : Grammar) (words : List String) : Except Stop Values := do
  let s ← words.foldlM (State.next g) (State.start g)
  (s.finish g).mapError .failed

end LineEditor.Options
