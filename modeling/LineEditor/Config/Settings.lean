import LineEditor.Toml.Read

/-! What the configuration sets: the prompt, whether there is a welcome, and the width of line numbers.

In a document each setting has a table and a key of its own. What is not set keeps its default, and
what is not known here is passed over. A setting of the wrong type spoils the whole document. -/
namespace LineEditor.Config

/-! ### The width of line numbers -/

def minWidth : Nat := 1

def maxWidth : Nat := 16

def defaultWidth : Nat := 6

def clampWidth (width : Nat) : Nat :=
  max minWidth (min maxWidth width)

/-! ### Settings -/

structure Settings where
  prompt : String
  welcome : Bool
  /-- As it is written, which may be beyond the limits. -/
  numberWidth : Nat
  deriving DecidableEq, Repr

namespace Settings

def default : Settings :=
  ⟨"dl> ", true, defaultWidth⟩

def shownWidth (s : Settings) : Nat :=
  clampWidth s.numberWidth

end Settings

/-- What a setting is set to, if anything, in what stands for its table. That may also be an array,
which holds the setting itself in front, or a date, in which nothing is set. All else is no table. -/
def setting? (key : String) : Toml.Value → Option (Option Toml.Value)
  | .table _ entries => some (Toml.Entries.get? entries key)
  | .array items => some items.head?
  | .tables earlier latest => some (some (.table .header (earlier.headD latest)))
  | .dateTime => some none
  | _ => none

/-- Looks a setting up. There is no result if it has the wrong type. -/
def lookUp? (document : Toml.Entries) (table key : String) (read : Toml.Value → Option α)
    (default : α) : Option α :=
  match document.get? table with
  | none => some default
  | some value => (setting? key value).bind fun found => found.elim (some default) read

def text? : Toml.Value → Option String
  | .string text => some text
  | _ => none

def boolean? : Toml.Value → Option Bool
  | .boolean b => some b
  | _ => none

/-- A number that is not negative and has no more than 64 bits. -/
def count? : Toml.Value → Option Nat
  | .integer n => if 0 ≤ n ∧ n < 0x10000000000000000 then some n.toNat else none
  | _ => none

def Settings.ofEntries? (document : Toml.Entries) : Option Settings := do
  return {
    prompt := ← lookUp? document "prompt" "text" text? default.prompt
    welcome := ← lookUp? document "startup" "welcome" boolean? default.welcome
    numberWidth := ← lookUp? document "print" "number_width" count? default.numberWidth }

def Settings.ofText? (text : String) : Option Settings :=
  (Toml.document? text).bind ofEntries?

end LineEditor.Config
