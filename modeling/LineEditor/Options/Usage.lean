import LineEditor.Options.Grammar
import LineEditor.Text.Hidden
import LineEditor.Text.Plain
import LineEditor.Text.Reader

/-! The usage text of a command: what it does, how it is called, and a table of its positional values
and one of its options. In a table the help stands in one column behind the widest entry; entries that
leave too little room for it in a line have it on the next line. -/
namespace LineEditor.Options

def lineWidth : Nat := 100

/-- The number of columns that characters take, one each. What stands between a control character and
the next letter `m` takes none, but no further than to the next gap. -/
def countColumns (characters : List (Option Char)) : Nat :=
  (characters.foldl
    (fun (count, hidden) c =>
      match c with
      | none => (count, false)
      | some c =>
        if Text.isControl c then (count, true)
        else if hidden then (count, c != 'm')
        else (count + 1, false))
    (0, false)).1

def columns (text : String) : Nat :=
  countColumns (text.toList.map some)

def shownColumns (text : String) : Nat :=
  countColumns (Text.scan .outside text.toList)

def spaces (n : Nat) : String :=
  String.ofList (List.replicate n ' ')

/-- Reads the mark `n` between braces as the end of a line. -/
def breakLines : List Char → List Char
  | '\x7b' :: 'n' :: '\x7d' :: rest => '\n' :: breakLines rest
  | c :: rest => c :: breakLines rest
  | [] => []

/-- One row of a table: how the argument is written, the columns that count for the layout, and what
is said about it. -/
structure Row where
  entry : List Text.Span
  width : Nat
  help : String
  remark : String
  deriving DecidableEq, Repr

namespace Row

/-- A fallback is quoted if it could not be seen otherwise. -/
def fallbackRemark : Option String → String
  | none => ""
  | some text =>
    let shown := if text.isEmpty || text.toList.any Text.isBlank then Text.quoted text else text
    "[default: " ++ shown ++ "]"

def ofPositional (p : Positional) : Row :=
  ⟨[.text p.text], columns p.shown, p.help, ""⟩

/-- An option with the text of its value, if it takes one. Options leave room for a short letter whether
they have one or not. -/
def option (short : Option Char) (name value help remark : String) : Row :=
  let letter := match short with
    | some c => [.strong (String.ofList ['-', c]), .text ", "]
    | none => [.text (spaces 4)]
  let long := "--" ++ name
  ⟨letter ++ [.strong long, .text value], columns (Text.plain (long ++ value)) + 4, help, remark⟩

def ofNamed (o : Named) : Row :=
  option o.short o.name o.valueText o.help (fallbackRemark o.fallback)

def text (r : Row) (indentation : Nat) : String :=
  let help := String.ofList (breakLines r.help.toList)
  let gap := if help.isEmpty || r.remark.isEmpty then "" else " "
  String.intercalate ("\n" ++ spaces indentation) ((help ++ gap ++ r.remark).splitOn "\n")

/-- The help does not fit behind the entries, and these take a good part of the line. -/
def needsOwnLine (r : Row) (widest : Nat) : Bool :=
  let taken := widest + 4
  decide (taken ≤ lineWidth ∧ 2 * lineWidth < 5 * taken ∧
    lineWidth - taken < shownColumns r.help + columns r.remark)

end Row

def table (rows : List Row) : List Text.Span :=
  let widest := rows.foldl (fun w r => max w r.width) 2
  let ownLines := rows.any (·.needsOwnLine widest)
  let row (r : Row) : List Text.Span :=
    [.text "  "] ++ r.entry ++
      if ownLines then [.text ("\n" ++ spaces 10 ++ r.text 10)]
      else [.text (spaces (widest + 2 - r.width) ++ r.text (widest + 4))]
  [.text "\n"].intercalate (rows.map row)

namespace Grammar

/-- Options other than those for help and version, which are not worth a mention. -/
def hasOptions (g : Grammar) : Bool :=
  g.named.any fun o => o.name != "help" && o.name != "version"

def call (g : Grammar) : List Text.Span :=
  let arguments :=
    (if g.hasOptions then ["[OPTIONS]"] else []) ++ g.positionals.map (·.text)
  [.strong "Usage:", .text " "] ++
    if g.command.isEmpty then [.text (String.intercalate " " arguments)]
    else [.strong g.command, .text (String.join (arguments.map (" " ++ ·)))]

def optionRows (g : Grammar) : List Row :=
  g.named.map Row.ofNamed ++ [Row.option (some 'h') "help" "" "Print help" ""] ++
    if g.version.isSome then [Row.option (some 'V') "version" "" "Print version" ""] else []

def tables (g : Grammar) : List Text.Span :=
  let positionals :=
    if g.positionals.isEmpty then []
    else [.strong "Arguments:", .text "\n"] ++ table (g.positionals.map Row.ofPositional) ++
      [.text "\n\n"]
  positionals ++ [.strong "Options:", .text "\n"] ++ table g.optionRows

def dropBlankLine (text : List Char) : List Char :=
  match text.dropWhile (· != '\n') with
  | _ :: later => if Text.allBlank (text.takeWhile (· != '\n')) then later else text
  | [] => text

/-- What the command does, and an empty line. A first line that is blank is left out. -/
def introduction (g : Grammar) : String :=
  String.ofList (dropBlankLine (breakLines g.about.toList ++ ['\n', '\n']))

def usage (g : Grammar) : String :=
  Text.Span.plain ([.text g.introduction] ++ g.call ++ [.text "\n\n"] ++ g.tables ++ [.text "\n"])

end Grammar
end LineEditor.Options
