/-! Documents in the configuration language TOML, as trees of values.

Tables remember how they came about, because that decides whether a later line may still add to them. -/
namespace LineEditor.Toml

inductive Origin where
  /-- The document itself, or a table with a header of its own. -/
  | header
  /-- On the way to the table that a header names. -/
  | implied
  /-- On the way to the key of a dotted name. -/
  | dotted
  /-- Written between braces, and complete with the closing one. -/
  | inline
  deriving DecidableEq, Repr

inductive Value where
  | string (text : String)
  | integer (n : Int)
  | float
  | boolean (b : Bool)
  | dateTime
  | array (items : List Value)
  | table (origin : Origin) (entries : List (String × Value))
  /-- An array of the tables under headers in double brackets, the latest one apart. -/
  | tables (earlier : List (List (String × Value))) (latest : List (String × Value))

/-- The entries of a table in the order in which they were made. -/
abbrev Entries := List (String × Value)

namespace Entries

def get? (entries : Entries) (key : String) : Option Value :=
  (entries.find? (·.1 == key)).map (·.2)

def set (key : String) (value : Value) : Entries → Entries
  | [] => [(key, value)]
  | (k, v) :: rest => if k = key then (key, value) :: rest else (k, v) :: set key value rest

/-- Goes down a path of keys, makes the tables that are lacking on the way, and changes the last one.
The path of a dotted name may only lead through tables that have no header of their own. In an array
of tables the way leads through the latest one. -/
def descend (dotted : Bool) (change : Origin → Entries → Option Entries) :
    List String → Origin → Entries → Option Entries
  | [], origin, entries => change origin entries
  | key :: path, _, entries => do
    let value ← match entries.get? key with
      | none =>
        let origin := if dotted then Origin.dotted else .implied
        (descend dotted change path origin []).map (.table origin)
      | some (.table origin inner) =>
        if origin = .inline ∨ (dotted ∧ origin = .header) then none
        else (descend dotted change path origin inner).map (.table origin)
      | some (.tables earlier latest) =>
        (descend dotted change path .header latest).map (.tables earlier)
      | some _ => none
    return entries.set key value

/-- Adds a key that is new to a table. The table of a plain key is the one under the last header; that
of a dotted name has come about by dotted names alone. -/
def addValue (path : List String) (key : String) (value : Value) (entries : Entries) :
    Option Entries :=
  descend true
    (fun origin entries =>
      if (origin = .dotted) = !path.isEmpty ∧ (entries.get? key).isNone then
        some (entries.set key value)
      else none)
    path .header entries

/-- Opens the table that a header names. It may have been implied before. -/
def openTable (path : List String) (key : String) (entries : Entries) : Option Entries :=
  descend false
    (fun _ entries =>
      match entries.get? key with
      | none => some (entries.set key (.table .header []))
      | some (.table .implied inner) => some (entries.set key (.table .header inner))
      | some _ => none)
    path .header entries

def openItem (path : List String) (key : String) (entries : Entries) : Option Entries :=
  descend false
    (fun _ entries =>
      match entries.get? key with
      | none => some (entries.set key (.tables [] []))
      | some (.tables earlier latest) => some (entries.set key (.tables (earlier ++ [latest]) []))
      | some _ => none)
    path .header entries

end Entries
end LineEditor.Toml
