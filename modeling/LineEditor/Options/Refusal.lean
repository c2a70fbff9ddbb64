import LineEditor.Options.Read
import LineEditor.Options.Usage
import LineEditor.Text.Similarity

/-! What is said when the words of a call are refused: the mistake, a tip if there is one, and how the
call is written. -/
namespace LineEditor.Options

namespace Grammar

def longNames (g : Grammar) : List String :=
  g.named.map (·.name) ++ ["help"] ++ if g.version.isSome then ["version"] else []

def optionShown? (g : Grammar) (name : String) : Option String :=
  match g.named.find? (·.name == name) with
  | some o => some o.shown
  | none => if g.longNames.contains name then some ("--" ++ name) else none

def synopsisWith (g : Grammar) (used : List String) : String :=
  if used.isEmpty then Text.Span.plain g.call
  else
    let options := used.eraseDups.filterMap g.optionShown?
    let positionals := g.positionals.map fun p =>
      Positional.shown { p with required := p.required || used.contains p.name }
    "Usage: " ++ String.intercalate " " (g.command :: options ++ positionals)

def alternatives (g : Grammar) : String :=
  "<" ++ String.intercalate "|" (g.positionals.map (·.placeholder) ++ g.named.map (·.shown)) ++ ">"

/-- How the command is called with a flag. When something has been given before, the rest of the call
is shown as one choice. -/
def synopsisWithFlag (g : Grammar) (flag : String) (given : List String) : String :=
  if given.isEmpty then g.synopsisWith [flag]
  else "Usage: " ++ g.command ++ " --" ++ flag ++ " " ++ g.alternatives

/-- A name is taken for another only if their likeness is greater than this. -/
def likeness : Number.Binary64 :=
  .ofFraction 7 10

/-- The option that is most probably meant; of two that are equally alike, the later one. -/
def suggestion? (g : Grammar) (name : String) : Option String :=
  let alike (long : String) : Nat := (Text.similarity name.toList long.toList).bits
  (g.longNames.filter (likeness.bits < alike ·)).foldl
    (fun best long =>
      match best with
      | some b => if alike long < alike b then best else some long
      | none => some long)
    none

/-- A word that looks like an option may be meant as a value. -/
def literalTip? (g : Grammar) (word : String) : Option (List Text.Span) :=
  if g.positionals.isEmpty then none
  else
    some [.text "to pass '", .strong word, .text "' as a value, use '", .strong ("-- " ++ word),
      .text "'"]

def advice (g : Grammar) : ReadError → Option (List Text.Span) × Option String
  | .unknownLong name given =>
    match g.suggestion? name with
    | some long =>
      (some [.text "a similar argument exists: '", .strong ("--" ++ long), .text "'"],
        some (g.synopsisWith (given ++ [long])))
    | none => (g.literalTip? ("--" ++ name), some (g.synopsisWith given))
  | .unknownShort letter =>
    (g.literalTip? (String.ofList ['-', letter]), some (g.synopsisWith []))
  | .unneededValue _ name given => (none, some (g.synopsisWithFlag name given))
  | .surplus _ | .repeated _ | .incomplete => (none, some (g.synopsisWith []))
  | .valueRequired _ | .invalidValue _ _ _ | .absent _ => (none, none)

def refusal (g : Grammar) (e : ReadError) : String :=
  let (tip, synopsis) := g.advice e
  let paragraphs : List (List Text.Span) :=
    [[.strong "error:", .text " "] ++ e.spans] ++
      (tip.map ([.text "  ", .strong "tip:", .text " "] ++ ·)).toList ++
      (synopsis.map ([.text ·])).toList ++
      [[.text "For more information, try '", .strong "--help", .text "'."]]
  Text.Span.streamed ([.text "\n\n"].intercalate paragraphs ++ [.text "\n"])

end Grammar
end LineEditor.Options
