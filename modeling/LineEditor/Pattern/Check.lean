import LineEditor.Pattern.Brackets

/-! Whole regular expressions: sequences of elements, some of them repeated, with alternatives between
them and groups around them. A number of repetitions in braces is not understood. -/
namespace LineEditor.Pattern

open Text (Step iterate)

inductive Error where
  | invalid
  /-- The place of a word boundary depends on what the letters are beyond ASCII. -/
  | wordBoundary
  deriving DecidableEq, Repr

def Error.message : Error → String
  | invalid => "error building NFA"
  | wordBoundary =>
    "unsupported regex feature for DFAs: cannot build DFAs for regexes with Unicode word boundaries; " ++
      "switch to ASCII word boundaries, or heuristically enable Unicode word boundaries or use a " ++
      "different regex engine"

/-- An element of a sequence: how deep it is, and whether it can be repeated. -/
structure Part where
  depth : Nat
  repeatable : Bool
  deriving DecidableEq, Repr

structure Alternatives where
  complete : List Nat
  /-- The one under way, with the latest element first. -/
  parts : List Part
  deriving DecidableEq, Repr

namespace Alternatives

def empty : Alternatives :=
  ⟨[], []⟩

def add (a : Alternatives) (part : Part) : Alternatives :=
  { a with parts := part :: a.parts }

def next (a : Alternatives) : Alternatives :=
  ⟨combined (a.parts.map (·.depth)) :: a.complete, []⟩

def depth (a : Alternatives) : Nat :=
  combined a.next.complete

def repeat? (a : Alternatives) : Option Alternatives :=
  match a.parts with
  | [] => none
  | part :: parts =>
    if part.repeatable then some { a with parts := ⟨part.depth + 1, true⟩ :: parts } else none

end Alternatives

structure Outer where
  flags : Flags
  alternatives : Alternatives
  deriving DecidableEq, Repr

structure State where
  flags : Flags
  alternatives : Alternatives
  outer : List Outer
  names : List (List Char)
  /-- There has been a word boundary that is not about ASCII. -/
  wordBoundary : Bool
  deriving DecidableEq, Repr

/-- Letters behind a question mark in a group, up to the sign that ends them: the flags that they make,
the letters, and what begins with that sign. Letters behind a hyphen clear their flags. -/
def flags? (f : Flags) (letters : List Char) : List Char →
    Option (Flags × List Char × List Char)
  | [] => none
  | c :: rest =>
    if c = ':' ∨ c = ')' then
      if letters.head? = some '-' then none else some (f, letters, c :: rest)
    else if letters.contains c then none
    else if c = '-' then flags? f (c :: letters) rest
    else
      match f.set? c (!letters.contains '-') with
      | some f => flags? f (c :: letters) rest
      | none => none

def groupName? (text : List Char) : Option (List Char × List Char) :=
  let name := text.takeWhile (· != '>')
  match name, text.dropWhile (· != '>') with
  | first :: others, _ :: rest =>
    let isInner (c : Char) : Bool :=
      c == '_' || c == '.' || c == '[' || c == ']' || Text.isAlphanumeric c
    if (first == '_' || Text.isAlphabetic first) && others.all isInner then some (name, rest) else none
  | _, _ => none

namespace State

def initial : State :=
  ⟨.initial, .empty, [], [], false⟩

def add (s : State) (depth : Nat) : State :=
  { s with alternatives := s.alternatives.add ⟨depth, true⟩ }

def enter (s : State) (flags : Flags) : State :=
  { s with flags, alternatives := .empty, outer := ⟨s.flags, s.alternatives⟩ :: s.outer }

/-- Leaves a group, which forgets the flags that have been set inside. -/
def leave? (s : State) : Option State :=
  match s.outer with
  | [] => none
  | around :: outer =>
    some { s with
      flags := around.flags
      alternatives := around.alternatives.add ⟨s.alternatives.depth + 1, true⟩
      outer }

def enterNamed? (s : State) (text : List Char) : Option (State × List Char) := do
  let (name, rest) ← groupName? text
  if s.names.contains name then none
  else some ({ s.enter s.flags with names := name :: s.names }, rest)

/-- Goes on behind an opening parenthesis. A look around is not understood. Flags without a group hold
for the rest of the group that they are in. -/
def group? (s : State) (text : List Char) : Option (State × List Char) :=
  match s.flags.skip text with
  | '?' :: '!' :: _ | '?' :: '=' :: _ | '?' :: '<' :: '!' :: _ | '?' :: '<' :: '=' :: _ => none
  | '?' :: 'P' :: '<' :: rest | '?' :: '<' :: rest => s.enterNamed? rest
  | '?' :: rest =>
    match flags? s.flags [] rest with
    | some (flags, _, ':' :: rest) => some (s.enter flags, rest)
    | some (flags, _ :: _, _ :: rest) =>
      some ({ s with flags, alternatives := s.alternatives.add ⟨0, false⟩ }, rest)
    | _ => none
  | rest => some (s.enter s.flags, rest)

/-- Goes on behind a sign of repetition, with a question mark for the fewest repetitions. -/
def repeat? (s : State) (text : List Char) : Option (State × List Char) :=
  (s.alternatives.repeat?).map fun alternatives =>
    ({ s with alternatives }, match text with
      | '?' :: rest => rest
      | rest => rest)

def escape? (s : State) (text : List Char) : Option (State × List Char) := do
  match ← Pattern.escape? s.flags text with
  | (.literal c byte, rest) => if s.flags.allowsLiteral c byte then some (s.add 0, rest) else none
  | (.kind negated, rest) => if s.flags.allowsKind negated then some (s.add 0, rest) else none
  | (.anchor, rest) => some (s.add 0, rest)
  | (.wordBoundary, rest) =>
    some ({ s.add 0 with wordBoundary := s.wordBoundary || s.flags.unicode }, rest)

def next? (s : State) (c : Char) (rest : List Char) : Option (State × List Char) :=
  match c with
  | '(' => s.group? rest
  | ')' => s.leave?.map (·, rest)
  | '|' => some ({ s with alternatives := s.alternatives.next }, rest)
  | '[' => (Brackets.read? s.flags rest).map fun (depth, rest) => (s.add depth, rest)
  | '?' | '*' | '+' => s.repeat? rest
  | '\x7b' => none
  | '\\' => s.escape? rest
  | '^' | '$' => some (s.add 0, rest)
  | '.' => if s.flags.unicode then some (s.add 0, rest) else none
  | c => if s.flags.allowsLiteral c false then some (s.add 0, rest) else none

/-- One step through a pattern. At its end all groups have to be closed. -/
def step (s : State) (text : List Char) : Option (Step State State) :=
  match s.flags.skip text with
  | [] => if s.outer.isEmpty then some (.done s []) else none
  | c :: rest => (s.next? c rest).map fun (s, rest) => .more s rest

end State

def maxDepth : Nat := 250

def check (text : List Char) : Option Error :=
  match iterate State.step .initial text with
  | none => some .invalid
  | some (s, _) =>
    if maxDepth < s.alternatives.depth then some .invalid
    else if s.wordBoundary then some .wordBoundary
    else none

end LineEditor.Pattern
