import LineEditor.Pattern.Element

/-! Brackets in regular expressions, which stand for one character of a set. They may hold characters,
ranges, named classes of ASCII and other brackets, with operators on sets between them. -/
namespace LineEditor.Pattern

open Text (Step iterate)

/-- Brackets that are not closed yet. Of the members only the depths are kept. -/
structure Brackets where
  /-- How deep the set in front of the last operator is. -/
  operand : Option Nat
  members : List Nat
  /-- Nothing but hyphens has come so far. -/
  fresh : Bool
  deriving DecidableEq, Repr

namespace Brackets

def opened : Brackets :=
  ⟨none, [], true⟩

def depth (b : Brackets) : Nat :=
  match b.operand with
  | none => combined b.members
  | some depth => 1 + max depth (combined b.members)

def add (b : Brackets) (depth : Nat) : Brackets :=
  { b with members := depth :: b.members, fresh := false }

/-- A hyphen at the head stands for itself. -/
def addHyphen (b : Brackets) : Brackets :=
  { b with members := 0 :: b.members }

def operate (b : Brackets) : Brackets :=
  ⟨some b.depth, [], false⟩

def opening? (f : Flags) (text : List Char) : Option (List Char) :=
  match f.skip text with
  | '^' :: rest => if f.allowsComplement then some rest else none
  | rest => some rest

def classNames : List String :=
  ["alnum", "alpha", "ascii", "blank", "cntrl", "digit", "graph", "lower", "print", "punct", "space",
    "upper", "word", "xdigit"]

def namedClass? : List Char → Option (Bool × List Char)
  | ':' :: text =>
    let (negated, text) := match text with
      | '^' :: rest => (true, rest)
      | rest => (false, rest)
    match text.dropWhile (· != ':') with
    | ':' :: ']' :: rest =>
      if classNames.contains (String.ofList (text.takeWhile (· != ':'))) then some (negated, rest)
      else none
    | _ => none
  | _ => none

def item? (f : Flags) : List Char → Option (Escape × List Char)
  | [] => none
  | '\\' :: rest => escape? f rest
  | c :: rest => some (.literal c false, rest)

def allows (f : Flags) : Escape → Bool
  | .literal c _ => f.allowsMember c
  | .kind negated => f.allowsKind negated
  | .anchor | .wordBoundary => false

def allowsRange (f : Flags) : Escape → Escape → Bool
  | .literal first _, .literal last _ =>
    f.allowsMember first && f.allowsMember last && first ≤ last
  | _, _ => false

/-- Passes a member or a range. A hyphen in front of another one or of the closing bracket makes no
range. -/
def member? (f : Flags) (text : List Char) : Option (List Char) := do
  let (first, rest) ← item? f text
  match f.skip rest with
  | [] => none
  | c :: later =>
    let next := f.peek? later
    if c = '-' ∧ next ≠ some ']' ∧ next ≠ some '-' then
      let (last, rest) ← item? f (f.skip later)
      if allowsRange f first last then some rest else none
    else if allows f first then some (c :: later)
    else none

/-- One step through brackets that lie in others. A closing bracket at the head stands for itself. -/
def step (f : Flags) : Brackets × List Brackets → List Char →
    Option (Step (Brackets × List Brackets) Nat) :=
  fun (b, outer) text =>
    match f.skip text with
    | [] => none
    | c :: rest =>
      if b.fresh ∧ c = '-' then
        if f.allowsMember c then some (.more (b.addHyphen, outer) rest) else none
      else if b.fresh ∧ b.members.isEmpty ∧ c = ']' then
        if f.allowsMember c then some (.more (b.add 0, outer) rest) else none
      else
        match c, rest with
        | '[', _ =>
          match namedClass? rest with
          | some (negated, later) =>
            if f.allowsClass negated then some (.more (b.add 0, outer) later) else none
          | none => (opening? f rest).map fun later => .more (opened, b :: outer) later
        | ']', _ =>
          let depth := 1 + b.depth
          match outer with
          | [] => some (.done depth rest)
          | parent :: outer => some (.more (parent.add depth, outer) rest)
        | '&', '&' :: later | '-', '-' :: later | '~', '~' :: later =>
          some (.more (b.operate, outer) later)
        | _, _ => (member? f (c :: rest)).map fun later => .more (b.add 0, outer) later

/-- How deep the brackets are whose inside is at the head of a text, and what follows them. -/
def read? (f : Flags) (text : List Char) : Option (Nat × List Char) := do
  iterate (step f) (opened, []) (← opening? f text)

end Brackets
end LineEditor.Pattern
