import LineEditor.Proofs.Execute
import LineEditor.Proofs.Followed
import LineEditor.Proofs.Outcome
import LineEditor.Proofs.Quoting
import LineEditor.Proofs.Registered
import LineEditor.Proofs.Typed

/-! What the commands that change lines do to a document, alone and behind a range, whatever text is
typed into them. -/
namespace LineEditor
open LineEditor.Action (effect)

inductive Edit where
  | insert (text : String)
  | append (text : String)
  | change (text : String)
  | delete
  deriving DecidableEq, Repr

def quotedCommand (name text : String) : String :=
  name ++ " -- " ++ String.ofList (Words.quote text.toList)

namespace Edit
open Buffer (keepCursor)

def command : Edit → String
  | insert text => quotedCommand "i" text
  | append text => quotedCommand "a" text
  | change text => quotedCommand "c" text
  | delete => "d"

def alone (b : Buffer) : Edit → Buffer
  | insert text =>
    let new := Text.splitTyped text
    match b.cursor with
    | none => { b with lines := new, cursor := some (new.length - 1) }
    | some i =>
      { b with
        lines := b.lines.take (i + 1) ++ new ++ b.lines.drop (i + 1)
        cursor := some (i + new.length) }
  | append text =>
    let lines := b.lines ++ Text.splitTyped text
    { b with lines, cursor := some (lines.length - 1) }
  | change text =>
    let lines := Text.splitTyped text
    { b with lines, cursor := some (lines.length - 1) }
  | delete => { b with lines := [], cursor := none }

def within (range : LineRange) (lines : List String) : Edit → List String
  | insert text => lines.take range.stop ++ Text.splitTyped text ++ lines.drop range.stop
  | append text => lines.take range.stop ++ Text.splitTyped text ++ lines.drop range.stop
  | change text => lines.take range.start ++ Text.splitTyped text ++ lines.drop range.stop
  | delete => lines.take range.start ++ lines.drop range.stop

def behind (p : ParsedRange) (b : Buffer) (edit : Edit) : Buffer :=
  let lines := edit.within p.range b.lines
  { b with lines, cursor := keepCursor (p.moved.or b.cursor) lines }

/-- The registered command, the words it is called with, and its work on the document it is given. -/
def definition : Edit → Definition
  | insert _ => Commands.insert
  | append _ => Commands.append
  | change _ => Commands.change
  | delete => Commands.delete

def arguments : Edit → List String
  | insert text => ["--", text]
  | append text => ["--", text]
  | change text => ["--", text]
  | delete => []

def apply (b : Buffer) : Edit → Buffer
  | insert text => b.insert (Text.splitTyped text)
  | append text => b.append (Text.splitTyped text)
  | change text => b.replaceAll (Text.splitTyped text)
  | delete => b.clear

end Edit

/-- Behind `--` a text is the value of the only argument, whatever it begins with. -/
theorem textGrammar_read (command about help text : String) :
    (⟨command, about, none, [], [⟨"text", "text", .text, true, help⟩]⟩ : Options.Grammar).read
        ["--", text] = .ok ⟨[("text", .text text)]⟩ := by
  open Options in
  have dashes : "--".toList = ['-', '-'] := rfl
  simp [Grammar.read, State.next, State.start, dashes, State.positional, State.settle, State.failing,
    State.finish, Kind.read, State.addFallbacks, Values.add, Values.contains, bind, Except.bind, pure,
    Except.pure, Except.mapError]

theorem effect_run_text (summary : Summary) (f : Buffer → List String → Buffer) (text : String)
    (catalogue : Catalogue) (desk : Desk)
    (compiled : Definition.compile
      ⟨summary, Commands.textArguments, Commands.textHandler summary.name f⟩ = .ok c) :
    effect (c.run catalogue ["--", text]) desk =
      (.ok .proceed, { desk with buffer := f desk.buffer (Text.splitTyped text) }) := by
  cases compiled
  rw [Command.run, Options.Descriptor.toPositional, textGrammar_read]
  rfl

theorem effect_run_delete (catalogue : Catalogue) (desk : Desk)
    (compiled : Commands.delete.compile = .ok c) :
    effect (c.run catalogue []) desk = (.ok .proceed, { desk with buffer := desk.buffer.clear }) := by
  cases compiled
  rfl

namespace Edit

theorem effect_run (edit : Edit) (catalogue : Catalogue) (desk : Desk)
    (compiled : edit.definition.compile = .ok c) :
    effect (c.run catalogue edit.arguments) desk =
      (.ok .proceed, { desk with buffer := edit.apply desk.buffer }) := by
  cases edit with
  | insert text =>
    exact effect_run_text Commands.insert.summary Buffer.insert text catalogue desk compiled
  | append text =>
    exact effect_run_text Commands.append.summary Buffer.append text catalogue desk compiled
  | change text =>
    exact effect_run_text Commands.change.summary Buffer.replaceAll text catalogue desk compiled
  | delete => exact effect_run_delete catalogue desk compiled

theorem mem_all (edit : Edit) : edit.definition ∈ Commands.all := by
  cases edit <;> simp [definition, Commands.all]

end Edit

theorem toList_quotedCommand (name text : String) :
    (quotedCommand name text).toList =
      name.toList ++ ' ' :: '-' :: '-' :: ' ' :: Words.quote text.toList := by
  simp [quotedCommand]

theorem readCommand_quotedCommand (name text : String)
    (spells : Words.Spells name.toList name.toList) (nonempty : name ≠ "") :
    readCommand (quotedCommand name text).toList = .ok ⟨name, ["--", text]⟩ := by
  have read := words_quote spells text.toList
  rw [String.ofList_toList, String.ofList_toList] at read
  rw [toList_quotedCommand, readCommand, read]
  simp [CommandLine.ofWords?, nonempty]

namespace Edit

theorem readCommand_command (edit : Edit) :
    readCommand edit.command.toList = .ok ⟨edit.definition.summary.name, edit.arguments⟩ := by
  have insert : Words.Plain 'i' := by constructor <;> decide
  have append : Words.Plain 'a' := by constructor <;> decide
  have change : Words.Plain 'c' := by constructor <;> decide
  cases edit with
  | insert text => exact readCommand_quotedCommand "i" text (Words.spells_plain insert) (by decide)
  | append text => exact readCommand_quotedCommand "a" text (Words.spells_plain append) (by decide)
  | change text => exact readCommand_quotedCommand "c" text (Words.spells_plain change) (by decide)
  | delete => rfl

theorem head_command (edit : Edit) :
    ∃ letter rest, edit.command.toList = letter :: rest ∧
      (letter = 'i' ∨ letter = 'a' ∨ letter = 'c' ∨ letter = 'd') := by
  cases edit with
  | insert text => exact ⟨'i', _, toList_quotedCommand "i" text, by decide⟩
  | append text => exact ⟨'a', _, toList_quotedCommand "a" text, by decide⟩
  | change text => exact ⟨'c', _, toList_quotedCommand "c" text, by decide⟩
  | delete => exact ⟨'d', [], rfl, by decide⟩

/-- No range can be read into the command. -/
theorem foreign_command (edit : Edit) : RangeForm.Foreign edit.command.toList := by
  obtain ⟨letter, rest, text, isLetter⟩ := edit.head_command
  intro c head
  rw [text] at head
  cases head
  rcases isLetter with rfl | rfl | rfl | rfl <;> simp [Address.Begins]

theorem nonblank_command (edit : Edit) : Text.allBlank edit.command.toList = false := by
  obtain ⟨letter, rest, text, isLetter⟩ := edit.head_command
  have visible : Text.isBlank letter = false := by
    rcases isLetter with rfl | rfl | rfl | rfl <;> rfl
  rw [text, Text.allBlank_cons, visible, Bool.false_and]

theorem effect_runCommand (edit : Edit) (width depth : Nat) (desk : Desk) :
    effect (runCommand { Registry.builtin with numberWidth := width } depth edit.command.toList) desk =
      (.ok .proceed, { desk with buffer := edit.apply desk.buffer }) := by
  obtain ⟨c, found, compiled⟩ := Registry.builtin_get? edit.mem_all
  have named : Registry.get? { Registry.builtin with numberWidth := width }
      edit.definition.summary.name = some c := found
  rw [LineEditor.effect_runCommand, edit.readCommand_command]
  dsimp only
  rw [named]
  exact edit.effect_run _ desk compiled

theorem apply_eq_alone (edit : Edit) (b : Buffer) : edit.apply b = edit.alone b := by
  have typed := Text.splitTyped_ne_nil
  cases edit with
  | insert text =>
    cases here : b.cursor <;> simp [apply, alone, Buffer.insert, Buffer.lastOf, here, typed]
  | append text => simp [apply, alone, Buffer.append, Buffer.lastOf, typed]
  | change text => simp [apply, alone, Buffer.replaceAll, Buffer.lastOf, typed]
  | delete => rfl

end Edit

namespace Buffer

theorem append_lines (b : Buffer) (new : List String) : (b.append new).lines = b.lines ++ new := by
  cases new <;> simp [append]

/-- Behind the last line there is nothing. -/
theorem insert_lines_of_last (b : Buffer) (new : List String) (here : b.cursor = b.last) :
    (b.insert new).lines = b.lines ++ new := by
  cases new with
  | nil => simp [insert]
  | cons line new =>
    cases lines : b.lines with
    | nil => simp [insert, here, last, lastOf, lines]
    | cons first rest => simp [insert, here, last, lastOf, lines]

end Buffer

namespace Edit

variable {b slice : Buffer} {range : LineRange}

/-- A slice is cut out with its last line current, so that inserting into it is appending to it. -/
theorem apply_lines (edit : Edit) (cut : b.slice? range.start range.stop = some slice) :
    b.lines.take range.start ++ (edit.apply slice).lines ++ b.lines.drop range.stop =
      edit.within range b.lines := by
  obtain ⟨ordered, bounded, rfl⟩ := Buffer.slice?_eq_some_iff.mp cut
  have front := Buffer.take_append_slice b.lines ordered
  cases edit with
  | insert text =>
    simp only [apply]
    rw [Buffer.insert_lines_of_last _ _ rfl, ← List.append_assoc, front]
    rfl
  | append text =>
    rw [apply, Buffer.append_lines, ← List.append_assoc, front]
    rfl
  | change text => rfl
  | delete => simp [apply, within, Buffer.clear, Buffer.replaceAll]

/-- Lines and the current line are all that changes. -/
theorem apply_keeps (edit : Edit) (b : Buffer) :
    (edit.apply b).file = b.file ∧ (edit.apply b).ending = b.ending := by
  rw [apply_eq_alone]
  cases edit with
  | insert text =>
    simp only [alone]
    split <;> exact ⟨rfl, rfl⟩
  | _ => exact ⟨rfl, rfl⟩

theorem restore_apply (edit : Edit) (cut : b.slice? range.start range.stop = some slice)
    (cursor : Option Nat) :
    { b with cursor }.restore range (edit.apply slice) =
      { b with
        lines := edit.within range b.lines
        cursor := Buffer.keepCursor cursor (edit.within range b.lines) } := by
  have lines := edit.apply_lines cut
  obtain ⟨file, ending⟩ := edit.apply_keeps slice
  obtain ⟨-, -, rfl⟩ := Buffer.slice?_eq_some_iff.mp cut
  rw [Buffer.restore_eq, file, ending, lines, Option.or_self, ite_self]

end Edit

/-- The commands that change lines succeed whatever text is typed into them. The whole desk is given:
nothing is shown, no file is touched, and the document keeps its numbering, its file and its
terminator. -/
theorem execute_edit (width : Nat) (edit : Edit) (desk : Desk) (valid : desk.buffer.Valid)
    (bound : desk.buffer.count < 0x7FFFFFFFFFFFFFFF) :
    effect (execute { Registry.builtin with numberWidth := width } edit.command) desk =
        (.ok .proceed, { desk with buffer := edit.alone desk.buffer }) ∧
    ∀ (text : String) (p : ParsedRange), desk.buffer.range text.toList = .ok (some p) → p.rest = [] →
      effect (execute { Registry.builtin with numberWidth := width } (text ++ edit.command)) desk =
        (.ok .proceed, { desk with buffer := edit.behind p desk.buffer }) := by
  have foreign := edit.foreign_command
  constructor
  · have plain := desk.buffer.range_of_foreign valid bound foreign
    rw [execute, effect_executeAt_command plain, edit.effect_runCommand, edit.apply_eq_alone]
  · intro text p parsed whole
    have levels : maxDepth - 1 = 62 + 1 := rfl
    have followed := desk.buffer.range_followed valid bound parsed foreign
    rw [whole, List.nil_append] at followed
    obtain ⟨slice, cut⟩ := Buffer.exists_slice valid parsed
    have sliceBound := Nat.lt_of_le_of_lt (Buffer.slice_count_le cut) bound
    have plain := slice.range_of_foreign (Buffer.slice_valid cut) sliceBound foreign
    have moved := desk.buffer.cursorAfter_of_parsed valid followed
    rw [execute, String.toList_append, levels,
      effect_executeAt_nested followed cut edit.nonblank_command, effect_executeAt_command plain,
      edit.effect_runCommand, afterNested, Desk.settled, moved, edit.restore_apply cut]
    rfl

theorem execute_edit_quotes :
    let desk : Desk := ⟨.ofLines ["a", "b", "c"], ⟨[], []⟩, .unlimited⟩
    desk.buffer.Valid ∧ desk.buffer.count < 0x7FFFFFFFFFFFFFFF ∧
      desk.buffer.range "1;+1".toList = .ok (some ⟨[], ⟨0, 2⟩, some 0⟩) ∧
      (Edit.change "-it's\nnew").command = "c -- '-it'\\''s\nnew'" ∧
      effect (execute .builtin "1;+1c -- '-it'\\''s\nnew'") desk =
        (.ok .proceed,
          { desk with buffer := ⟨["-it's", "new", "c"], some 0, 1, none, .lf⟩ }) := by
  intro desk
  have valid : desk.buffer.Valid := by decide
  have bound : desk.buffer.count < 0x7FFFFFFFFFFFFFFF := by decide
  have parsed : desk.buffer.range "1;+1".toList = .ok (some ⟨[], ⟨0, 2⟩, some 0⟩) := by
    decide +kernel
  have written : (Edit.change "-it's\nnew").command = "c -- '-it'\\''s\nnew'" := by decide +kernel
  have done := (execute_edit 6 (.change "-it's\nnew") desk valid bound).2 "1;+1" _ parsed rfl
  have result : (Edit.change "-it's\nnew").behind ⟨[], ⟨0, 2⟩, some 0⟩ desk.buffer =
      ⟨["-it's", "new", "c"], some 0, 1, none, .lf⟩ := by decide +kernel
  rw [written, result] at done
  exact ⟨valid, bound, parsed, written, done⟩

end LineEditor
