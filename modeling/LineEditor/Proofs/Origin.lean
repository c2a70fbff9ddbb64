import LineEditor.Proofs.Builtin
import LineEditor.Proofs.Session
import LineEditor.Proofs.Typed

/-! Where the lines of a document come from. In a whole session every line was there at the start, comes
from a file or has been typed in. No line ever holds an LF, but one that is typed may keep a CR, and then
storing the document and loading it again does not give it back. -/
namespace LineEditor
open LineEditor.Action (effect)

/-- Doing a text types in another one: behind whatever ranges there is a command that puts it into the
document. -/
inductive Types (registry : Registry) (typed : String) : Nat → List Char → Desk → Prop where
  | alone : desk.buffer.range text = .ok none → readCommand text = .ok line →
      line.name ∈ ["i", "a", "c"] → registry.get? line.name = some c →
      c.grammar.read line.arguments = .ok values → values.text? "text" = some typed →
      Types registry typed levels text desk
  | behind (p : ParsedRange) (slice : Buffer) : desk.buffer.range text = .ok (some p) →
      desk.buffer.slice? p.range.start p.range.stop = some slice → Text.allBlank p.rest = false →
      Types registry typed levels p.rest { desk with buffer := slice } →
      Types registry typed (levels + 1) text desk

/-- The desks that a session has in front of its prompts, and the one that it leaves in the end. -/
inductive Session.Reaches (s : Session) : List (List UInt8) → Progress → Desk → Prop where
  | here (parts : List (List UInt8)) (p : Progress) : Reaches s parts p p.desk
  | later (rest : List (List UInt8)) : (s.ask p).bind (s.answer · piece) = .ok next →
      Reaches s rest next desk → Reaches s (piece :: rest) p desk
  | last (parts : List (List UInt8)) (p : Progress) : Reaches s parts p (s.runPieces parts p).desk

inductive Session.Enters (s : Session) (typed : String) : List (List UInt8) → Progress → Prop where
  | now (rest : List (List UInt8)) : s.ask p = .ok asked → Says piece text →
      Types s.registry typed (maxDepth - 1) text.toList asked.desk → Enters s typed (piece :: rest) p
  | later : (s.ask p).bind (s.answer · piece) = .ok next → Enters s typed rest next →
      Enters s typed (piece :: rest) p

variable {registry : Registry} {text : List Char} {typed : String} {desk : Desk}
  {outcome : Except CommandError Flow × Desk}

theorem RunsCommand.origin (run : RunsCommand registry text desk outcome)
    (builtin : registry.commands = Registry.builtin.commands) (plain : desk.buffer.range text = .ok none)
    (member : line ∈ outcome.2.buffer.lines) :
    ComesFrom desk.buffer.lines (fun typed => Types registry typed levels text desk) line := by
  cases run with
  | unread _ => exact .kept member
  | unknown _ _ => exact .kept member
  | refused _ _ _ => exact .kept member
  | usage _ _ _ =>
    rw [keeps_usage] at member
    exact .kept member
  | @handled call c values said found understood =>
    have makes := Registry.builtin_makes (builtin ▸ Registry.mem_of_get? found) registry.catalogue
      values desk
    refine (makes.origin member).trans .kept fun typed given => ?_
    rw [Registry.name_of_get? found] at given
    exact .alone plain said given.1 found understood given.2

theorem Buffer.mem_of_mem_restore {b slice : Buffer} {range : LineRange}
    (member : line ∈ (b.restore range slice).lines) : line ∈ b.lines ∨ line ∈ slice.lines := by
  rw [restore_eq] at member
  rcases List.mem_append.mp member with front | behind
  · rcases List.mem_append.mp front with before | inside
    · exact .inl (List.mem_of_mem_take before)
    · exact .inr inside
  · exact .inl (List.mem_of_mem_drop behind)

theorem Buffer.mem_of_mem_slice {b slice : Buffer} (cut : b.slice? start stop = some slice)
    (member : line ∈ slice.lines) : line ∈ b.lines := by
  obtain ⟨-, -, rfl⟩ := slice?_eq_some_iff.mp cut
  exact List.mem_of_mem_take (List.mem_of_mem_drop member)

/-- This holds whether a text succeeds or fails. -/
theorem Executes.origin (run : Executes registry levels text desk outcome)
    (builtin : registry.commands = Registry.builtin.commands)
    (member : line ∈ outcome.2.buffer.lines) :
    ComesFrom desk.buffer.lines (fun typed => Types registry typed levels text desk) line := by
  induction run with
  | refused _ => exact .kept member
  | command plain run => exact run.origin builtin plain member
  | @shown levels text desk p slice _ _ _ =>
    obtain ⟨moved, left⟩ := showRange_buffer p.range slice (desk.settled text)
    obtain ⟨cursor, same⟩ := (desk.settled text).buffer.exists_moveTo moved
    rw [left, same] at member
    exact .kept member
  | tooDeep _ _ => exact .kept member
  | nested p slice outcome parsed cut more _ ih =>
    obtain ⟨result, left⟩ := outcome
    cases result with
    | error e => exact .kept member
    | ok flow =>
      rcases Buffer.mem_of_mem_restore member with old | inside
      · exact .kept old
      · exact (ih inside).trans (fun sliced => .kept (Buffer.mem_of_mem_slice cut sliced))
          fun _ types => .behind p slice parsed cut more types

/-! ### What is typed arrives -/

theorem Buffer.mem_insert_of_mem {b : Buffer} (member : line ∈ new) : line ∈ (b.insert new).lines := by
  have some : new.isEmpty = false := List.isEmpty_eq_false_iff.mpr (List.ne_nil_of_mem member)
  unfold insert
  rw [if_neg (by simp [some])]
  split
  · exact member
  · exact List.mem_append_left _ (List.mem_append_right _ member)

theorem Buffer.mem_append_of_mem {b : Buffer} (member : line ∈ new) : line ∈ (b.append new).lines := by
  have some : new.isEmpty = false := List.isEmpty_eq_false_iff.mpr (List.ne_nil_of_mem member)
  unfold append
  rw [if_neg (by simp [some])]
  exact List.mem_append_right _ member

theorem Registry.effect_typed (builtin : registry.commands = Registry.builtin.commands)
    (found : registry.get? name = some c) (named : name ∈ ["i", "a", "c"])
    (given : values.text? "text" = some typed) (catalogue : Catalogue) (desk : Desk) :
    ∃ after, effect (c.handler catalogue values) desk = (.ok .proceed, { desk with buffer := after }) ∧
      ∀ line ∈ Text.splitTyped typed, line ∈ after.lines := by
  have runs (f : Buffer → List String → Buffer) (own : c.handler = Commands.textHandler name f) :
      effect (c.handler catalogue values) desk =
        (.ok .proceed, { desk with buffer := f desk.buffer (Text.splitTyped typed) }) := by
    rw [own, Commands.effect_textHandler, given]
  simp only [List.mem_cons, List.not_mem_nil, or_false] at named
  rcases named with rfl | rfl | rfl
  · have insert := handler_of_get? (d := Commands.insert) builtin found (by simp [Commands.all])
    exact ⟨_, runs _ insert, fun _ => Buffer.mem_insert_of_mem⟩
  · have append := handler_of_get? (d := Commands.append) builtin found (by simp [Commands.all])
    exact ⟨_, runs _ append, fun _ => Buffer.mem_append_of_mem⟩
  · have change := handler_of_get? (d := Commands.change) builtin found (by simp [Commands.all])
    exact ⟨_, runs _ change, fun _ member => member⟩

/-- A text that types in another one succeeds, and all lines of that one stand in the document then. -/
theorem Types.arrives (types : Types registry typed levels text desk)
    (builtin : registry.commands = Registry.builtin.commands) :
    ∃ left, effect (executeAt registry levels text) desk = (.ok .proceed, left) ∧
      ∀ line ∈ Text.splitTyped typed, line ∈ left.buffer.lines := by
  induction types with
  | @alone text call c values levels desk plain said named found understood given =>
    obtain ⟨after, done, arrives⟩ := Registry.effect_typed builtin found named given
      registry.catalogue desk
    refine ⟨{ desk with buffer := after }, ?_, arrives⟩
    rw [effect_executeAt_command plain, effect_runCommand_handled 0 desk said found understood]
    exact done
  | @behind levels desk text p slice parsed cut more _ ih =>
    obtain ⟨left, done, arrives⟩ := ih
    refine ⟨{ left with buffer := (desk.settled text).buffer.restore p.range left.buffer }, ?_, ?_⟩
    · rw [effect_executeAt_nested parsed cut more, done, afterNested]
    · intro line member
      rw [Buffer.restore_eq]
      exact List.mem_append_left _ (List.mem_append_right _ (arrives line member))

/-! ### Whole sessions -/

namespace Session

variable {s : Session} {p asked : Progress} {piece : List UInt8} {parts : List (List UInt8)}

def deskOf : Except Ended Progress → Desk
  | .ok p => p.desk
  | .error ended => ended.desk

theorem deskOf_display (p : Progress) (text : String) :
    (deskOf (p.display text)).buffer = p.desk.buffer := by
  unfold Progress.display
  dsimp only
  split <;> rfl

theorem deskOf_answer (s : Session) (p : Progress) (piece : List UInt8) :
    (deskOf (s.answer p piece)).buffer = p.desk.buffer ∨
      ∃ text, Says piece text ∧
        (deskOf (s.answer p piece)).buffer = (effect (execute s.registry text) p.desk).2.buffer := by
  cases found : commandText? piece with
  | none =>
    refine .inl ?_
    rw [answer, found]
    rfl
  | some text =>
    refine .inr ⟨text, commandText?_eq_some_iff.mp found, ?_⟩
    simp only [answer, found]
    cases result : (execute s.registry text p.desk).result with
    | error e => exact deskOf_display _ _
    | ok flow => cases flow <;> rfl

/-- What one piece of input does to the document is done by the text that it says. -/
theorem deskOf_step (s : Session) (p : Progress) (piece : List UInt8) :
    let left := deskOf ((s.ask p).bind (s.answer · piece))
    left.buffer = p.desk.buffer ∨ ∃ asked text, s.ask p = .ok asked ∧ Says piece text ∧
      asked.desk.buffer = p.desk.buffer ∧
      left.buffer = (effect (execute s.registry text) asked.desk).2.buffer := by
  intro left
  have same := deskOf_display p s.prompt
  change (deskOf (s.ask p)).buffer = p.desk.buffer at same
  cases asks : s.ask p with
  | error ended =>
    rw [asks] at same
    refine .inl ?_
    simp only [left, asks]
    exact same
  | ok asked =>
    rw [asks] at same
    have step : left = deskOf (s.answer asked piece) := by
      simp only [left, asks]
      rfl
    rcases deskOf_answer s asked piece with kept | ⟨text, said, done⟩
    · exact .inl (by rw [step, kept]; exact same)
    · exact .inr ⟨asked, text, rfl, said, same, by rw [step, done]⟩

theorem step_valid (builtin : s.registry.commands = Registry.builtin.commands)
    (valid : p.desk.buffer.Valid) (piece : List UInt8) :
    (deskOf ((s.ask p).bind (s.answer · piece))).buffer.Valid := by
  rcases s.deskOf_step p piece with same | ⟨asked, text, -, -, same, done⟩
  · rwa [same]
  · rw [done]
    rw [← same] at valid
    exact (executes_executeAt s.registry (maxDepth - 1) text.toList asked.desk valid).valid
      (fun c member => Registry.builtin_keepsValid (builtin ▸ member)) valid

theorem step_origin (builtin : s.registry.commands = Registry.builtin.commands)
    (valid : p.desk.buffer.Valid)
    (member : line ∈ (deskOf ((s.ask p).bind (s.answer · piece))).buffer.lines)
    (rest : List (List UInt8)) :
    ComesFrom p.desk.buffer.lines (fun typed => s.Enters typed (piece :: rest) p) line := by
  rcases s.deskOf_step p piece with same | ⟨asked, text, asks, said, same, done⟩
  · exact .kept (by rwa [same] at member)
  · rw [done] at member
    rw [← same] at valid ⊢
    have run := executes_executeAt s.registry (maxDepth - 1) text.toList asked.desk valid
    exact (run.origin builtin member).trans .kept fun _ types => .now rest asks said types

theorem later_origin (step : (s.ask p).bind (s.answer · piece) = .ok next)
    (builtin : s.registry.commands = Registry.builtin.commands) (valid : p.desk.buffer.Valid)
    (later : ComesFrom next.desk.buffer.lines (fun typed => s.Enters typed rest next) line) :
    ComesFrom p.desk.buffer.lines (fun typed => s.Enters typed (piece :: rest) p) line := by
  refine later.trans (fun before => ?_) fun _ enters => .later step enters
  have member : line ∈ (deskOf ((s.ask p).bind (s.answer · piece))).buffer.lines := by
    rw [step]
    exact before
  exact step_origin builtin valid member rest

theorem runPieces_origin (builtin : s.registry.commands = Registry.builtin.commands)
    (parts : List (List UInt8)) (valid : p.desk.buffer.Valid)
    (member : line ∈ (s.runPieces parts p).desk.buffer.lines) :
    ComesFrom p.desk.buffer.lines (fun typed => s.Enters typed parts p) line := by
  induction parts generalizing p with
  | nil =>
    have same := deskOf_display p s.prompt
    change (deskOf (s.ask p)).buffer = p.desk.buffer at same
    refine .kept ?_
    rw [← same]
    rw [runPieces] at member
    cases asks : s.ask p <;> rw [asks] at member <;> exact member
  | cons piece rest ih =>
    rw [runPieces] at member
    have kept := step_valid builtin valid piece
    cases step : (s.ask p).bind (s.answer · piece) with
    | error ended =>
      rw [step] at member
      refine step_origin builtin valid ?_ rest
      rw [step]
      exact member
    | ok next =>
      rw [step] at member kept
      exact later_origin step builtin valid (ih kept member)

/-- This holds of every document that a session goes through. -/
theorem Reaches.origin (reaches : s.Reaches parts p desk)
    (builtin : s.registry.commands = Registry.builtin.commands) (valid : p.desk.buffer.Valid)
    (member : line ∈ desk.buffer.lines) :
    ComesFrom p.desk.buffer.lines (fun typed => s.Enters typed parts p) line := by
  induction reaches with
  | here _ _ => exact .kept member
  | @later p piece next desk rest step _ ih =>
    have kept := step_valid builtin valid piece
    rw [step] at kept
    exact later_origin step builtin valid (ih kept member)
  | last parts p => exact runPieces_origin builtin parts valid member

/-- All lines of a text that is typed in stand in one of the documents that the session goes through. -/
theorem Enters.arrives (enters : s.Enters typed parts p)
    (builtin : s.registry.commands = Registry.builtin.commands) :
    ∃ desk, s.Reaches parts p desk ∧ ∀ line ∈ Text.splitTyped typed, line ∈ desk.buffer.lines := by
  induction enters with
  | @now p asked piece text rest asks said types =>
    obtain ⟨left, done, arrives⟩ := types.arrives builtin
    obtain ⟨next, there, answered⟩ := answer_eq_display said done (by simp)
    have step : (s.ask p).bind (s.answer · piece) = .ok next := by
      rw [asks, Except.bind, answered]
      exact display_empty next
    exact ⟨next.desk, .later rest step (.here rest next), by rwa [there]⟩
  | later step _ ih =>
    obtain ⟨desk, reaches, arrives⟩ := ih
    exact ⟨desk, .later _ step reaches, arrives⟩

end Session

/-- Loading takes every character of a terminator off the lines, so that only typing can leave one. -/
theorem ComesFrom.unbroken_or_typed (comes : ComesFrom old types line)
    (clean : ∀ line ∈ old, Text.Unbroken line.toList) :
    Text.Unbroken line.toList ∨ ∃ text, types text ∧ line ∈ Text.splitTyped text := by
  cases comes with
  | kept inside => exact .inl (clean line inside)
  | loaded stored inside => exact .inl (Text.unbroken_loaded stored line inside)
  | typed text types inside => exact .inr ⟨text, types, inside⟩

theorem Program.openFile_valid (files : FileTree) (path : Option String) :
    (openFile files path).1.Valid := by
  unfold openFile
  cases path with
  | none => exact rfl
  | some path =>
    dsimp only
    cases files.readText path with
    | ok text => exact Buffer.lastOf_valid (Buffer.ofText text) (Text.Loaded.ofText text).lines
    | error e => cases e <;> exact rfl

theorem Program.openFile_unbroken (files : FileTree) (path : Option String) :
    ∀ line ∈ (openFile files path).1.lines, Text.Unbroken line.toList := by
  unfold openFile
  cases path with
  | none => exact List.forall_mem_nil _
  | some path =>
    dsimp only
    cases files.readText path with
    | ok text => exact Text.unbroken_loaded text
    | error e => cases e <;> exact List.forall_mem_nil _

theorem Commands.effect_write_ok {catalogue : Catalogue} {values : Options.Values}
    (done : effect (write.handler catalogue values) desk = (.ok .proceed, after)) :
    ∃ path, after.buffer.file = some path ∧
      desk.files.writeText path desk.buffer.render = .ok after.files := by
  rw [effect_write] at done
  cases chosen : (values.text? "filename").or desk.buffer.file with
  | none =>
    rw [chosen] at done
    cases done
  | some path =>
    simp only [chosen] at done
    cases stored : desk.files.writeText path desk.buffer.render with
    | error e =>
      rw [stored] at done
      cases done
    | ok left =>
      rw [stored] at done
      cases done
      exact ⟨path, rfl, stored⟩

/-- A document without any LF on its lines is loaded as it has been stored exactly if there is no CR on
them either. -/
theorem Program.openFile_stored_iff {b : Buffer} {files left : FileTree}
    (stored : files.writeText path b.render = .ok left) (noFeed : ∀ line ∈ b.lines, '\n' ∉ line.toList) :
    (openFile left (some path)).1.lines = b.lines ↔ ∀ line ∈ b.lines, '\r' ∉ line.toList := by
  have reread := FileTree.readText_of_writeText stored
  have loaded : (openFile left (some path)).1.lines = (Text.Loaded.ofText b.render).lines := by
    simp only [openFile, reread]
    rfl
  rw [loaded]
  constructor
  · intro same line member ret
    rw [← same] at member
    exact (Text.unbroken_loaded _ line member '\r' ret).2 rfl
  · intro noReturn
    have unbroken : ∀ line ∈ b.lines, Text.Unbroken line.toList := by
      intro line member c inside
      constructor <;> rintro rfl
      · exact noFeed line member inside
      · exact noReturn line member inside
    rw [b.loaded_render unbroken]

/-- No document that a session goes through has a line with an LF. None has a line with a CR either,
exactly if no text is typed in that leaves one on a line; and what is stored by a command is loaded with
the same lines exactly if they hold no CR. -/
theorem Session.lines_unbroken_iff (width : Nat) (prompt : String) (input : ByteArray)
    (earlier files : FileTree) (path : Option String) (sink : Sink) :
    let s : Session := ⟨{ Registry.builtin with numberWidth := width }, prompt⟩
    let start : Progress := .start ⟨(Program.openFile earlier path).1, files, sink⟩
    let parts := pieces input.data.toList
    (∀ desk, s.Reaches parts start desk → ∀ line ∈ desk.buffer.lines, '\n' ∉ line.toList) ∧
    ((∀ desk, s.Reaches parts start desk → ∀ line ∈ desk.buffer.lines, '\r' ∉ line.toList) ↔
      ∀ typed, s.Enters typed parts start → ∀ line ∈ Text.splitTyped typed, '\r' ∉ line.toList) ∧
    ∀ desk, s.Reaches parts start desk → ∀ values after,
      effect (Commands.write.handler s.registry.catalogue values) desk = (.ok .proceed, after) →
      ∃ path, after.buffer.file = some path ∧
        ((Program.openFile after.files (some path)).1.lines = desk.buffer.lines ↔
          ∀ line ∈ desk.buffer.lines, '\r' ∉ line.toList) := by
  intro s start parts
  have builtin : s.registry.commands = Registry.builtin.commands := rfl
  have valid : start.desk.buffer.Valid := Program.openFile_valid earlier path
  have old : ∀ line ∈ start.desk.buffer.lines, Text.Unbroken line.toList :=
    Program.openFile_unbroken earlier path
  have noFeed : ∀ desk, s.Reaches parts start desk →
      ∀ line ∈ desk.buffer.lines, '\n' ∉ line.toList := by
    intro desk reaches line member feed
    have comes := reaches.origin builtin valid member
    rcases comes.unbroken_or_typed old with unbroken | ⟨text, -, inside⟩
    · exact (unbroken '\n' feed).1 rfl
    · exact Text.not_mem_splitTyped inside feed
  refine ⟨noFeed, ⟨fun clean typed enters => ?_, fun clean desk reaches line member ret => ?_⟩, ?_⟩
  · obtain ⟨desk, reaches, arrives⟩ := enters.arrives builtin
    exact fun line member => clean desk reaches line (arrives line member)
  · have comes := reaches.origin builtin valid member
    rcases comes.unbroken_or_typed old with unbroken | ⟨text, enters, inside⟩
    · exact (unbroken '\r' ret).2 rfl
    · exact clean text enters line inside ret
  · intro desk reaches values after done
    obtain ⟨path, file, stored⟩ := Commands.effect_write_ok done
    exact ⟨path, file, Program.openFile_stored_iff stored (noFeed desk reaches)⟩

/-- A CR that is typed in the middle of a line has got into the document with a text. -/
theorem Session.lines_unbroken_iff_return :
    let s : Session := ⟨{ Registry.builtin with numberWidth := 6 }, "> "⟩
    let start : Progress := .start ⟨(Program.openFile ⟨[], []⟩ none).1, ⟨[], []⟩, .unlimited⟩
    let parts := pieces "i 'a\rb\r'\n".toUTF8.data.toList
    (s.runPieces parts start).desk.buffer.lines = ["a\rb"] ∧
      ∃ typed, s.Enters typed parts start ∧ ∃ line ∈ Text.splitTyped typed, '\r' ∈ line.toList := by
  intro s start parts
  have lines : (s.runPieces parts start).desk.buffer.lines = ["a\rb"] := by decide +kernel
  obtain ⟨-, clean, -⟩ := lines_unbroken_iff 6 "> " "i 'a\rb\r'\n".toUTF8 ⟨[], []⟩ ⟨[], []⟩ none .unlimited
  refine ⟨lines, ?_⟩
  by_contra none
  have all := clean.mpr fun typed enters line member ret => none ⟨typed, enters, line, member, ret⟩
  have found := all _ (.last parts start) "a\rb" (by rw [lines]; exact List.mem_cons_self)
  exact found (by decide)

/-- A document that a session goes through need not be free of CR, and then it is not loaded as it has
been stored. -/
theorem Session.not_lines_unbroken :
    let s : Session := ⟨.builtin, "> "⟩
    let start : Progress := .start ⟨.empty, ⟨[], []⟩, .unlimited⟩
    let parts := pieces "i 'a\rb'\n".toUTF8.data.toList
    ∃ desk, s.Reaches parts start desk ∧ desk.buffer.lines = ["a\rb"] ∧
      ¬ (∀ line ∈ desk.buffer.lines, Text.Unbroken line.toList) ∧
      (Text.Loaded.ofText desk.buffer.render).lines = ["a", "b"] := by
  intro s start parts
  have lines : (s.runPieces parts start).desk.buffer.lines = ["a\rb"] := by decide +kernel
  have loaded : (Text.Loaded.ofText (s.runPieces parts start).desk.buffer.render).lines = ["a", "b"] := by
    decide +kernel
  refine ⟨_, .last parts start, lines, fun unbroken => ?_, loaded⟩
  rw [lines] at unbroken
  exact (unbroken "a\rb" List.mem_cons_self '\r' (by decide)).2 rfl

end LineEditor
