import LineEditor.Proofs.Builtin
import LineEditor.Proofs.Nested

/-! What a text calls behind its ranges, and what a run of texts leaves. A call works on the document or
on one slice of it, whatever ranges there are, and a text that calls nothing moves the current line at
most. What a run leaves in one place of the document is what was noted for it last. -/
namespace LineEditor
open LineEditor.Action (effect)

/-- A command with the values that it is called with and the document that it is given, which may be a
slice. -/
structure Call where
  command : Command
  values : Options.Values
  document : Buffer

/-- What a text without a range calls. Nothing is called if the text is refused, or if it asks for the
usage text of a command. -/
def directCall? (registry : Registry) (text : List Char) (b : Buffer) : Option Call :=
  match readCommand text with
  | .error _ => none
  | .ok line =>
    match registry.get? line.name with
    | none => none
    | some c =>
      match c.grammar.read line.arguments with
      | .error _ => none
      | .ok values => some ⟨c, values, b⟩

def call? (registry : Registry) (levels : Nat) (text : List Char) (b : Buffer) : Option Call :=
  match b.range text with
  | .error _ => none
  | .ok none => directCall? registry text b
  | .ok (some p) =>
    match b.slice? p.range.start p.range.stop with
    | none => none
    | some slice =>
      if Text.allBlank p.rest then none
      else match levels with
        | 0 => none
        | levels + 1 => call? registry levels p.rest slice

def Call.outcome (call : Call) (registry : Registry) (desk : Desk) : Except CommandError Flow × Desk :=
  effect (call.command.handler registry.catalogue call.values) { desk with buffer := call.document }

structure Request where
  text : String
  sink : Sink

namespace Registry

variable (registry : Registry)

def called? (desk : Desk) (request : Request) : Option Call :=
  call? registry (maxDepth - 1) request.text.toList desk.buffer

def perform (desk : Desk) (request : Request) : Except CommandError Flow × Desk :=
  effect (execute registry request.text) { desk with sink := request.sink }

def performAll (desk : Desk) (requests : List Request) : Desk :=
  requests.foldl (fun desk request => (registry.perform desk request).2) desk

def noted (note : Desk → Request → Option α) : Desk → List Request → List α
  | _, [] => []
  | desk, request :: later =>
    (note desk request).toList ++ noted note (registry.perform desk request).2 later

end Registry

section Calls

variable {registry : Registry} {desk : Desk} {text : List Char} {levels : Nat} {call : Call}
  {p : ParsedRange} {slice : Buffer}

theorem directCall?_eq_some (called : directCall? registry text b = some call) :
    call.document = b ∧ ∃ line, readCommand text = .ok line ∧
      registry.get? line.name = some call.command ∧
      call.command.grammar.read line.arguments = .ok call.values := by
  unfold directCall? at called
  split at called
  · contradiction
  · rename_i line said
    split at called
    · contradiction
    · rename_i c found
      split at called
      · contradiction
      · rename_i values understood
        cases called
        exact ⟨rfl, line, said, found, understood⟩

theorem effect_runCommand_called (called : directCall? registry text desk.buffer = some call)
    (depth : Nat) :
    effect (runCommand registry depth text) desk = call.outcome registry desk := by
  obtain ⟨document, line, said, found, understood⟩ := directCall?_eq_some called
  rw [effect_runCommand_handled depth desk said found understood, Call.outcome, document]

/-- A text without a range that calls nothing shows a usage text at most. -/
theorem effect_runCommand_uncalled (none : directCall? registry text desk.buffer = none)
    (depth : Nat) :
    ∃ result sink, effect (runCommand registry depth text) desk = (result, { desk with sink }) := by
  have run := runsCommand_runCommand registry depth text desk
  generalize effect (runCommand registry depth text) desk = outcome at run ⊢
  cases run with
  | unread _ => exact ⟨_, desk.sink, rfl⟩
  | unknown _ _ => exact ⟨_, desk.sink, rfl⟩
  | refused _ _ _ => exact ⟨_, desk.sink, rfl⟩
  | usage _ _ _ =>
    obtain ⟨text, shown⟩ := (prints_usage _).exists_shown desk
    exact ⟨_, _, shown⟩
  | handled said found understood => simp [directCall?, said, found, understood] at none

/-- Showing a range moves the current line of the document at most. -/
theorem effect_showRange_moves (depth : Nat) (range : LineRange) (slice : Buffer) (desk : Desk) :
    ∃ result cursor sink, effect (showRange depth range slice) desk =
      (result, ⟨{ desk.buffer with cursor }, desk.files, sink⟩) := by
  obtain ⟨text, shown⟩ := Commands.prints_printLines.exists_shown { desk with buffer := slice }
  obtain ⟨cursor, moved⟩ := desk.buffer.exists_moveTo range.last?
  rw [effect_showRange, shown, Desk.shown]
  dsimp only
  cases (desk.sink.write text).2 with
  | true => exact ⟨_, cursor, _, by rw [if_pos rfl, moved]⟩
  | false => exact ⟨_, desk.buffer.cursor, _, rfl⟩

/-- A call works on the document itself, or on the slice of it that its ranges cut out and that is put
back over them. -/
theorem effect_executeAt_called (called : call? registry levels text desk.buffer = some call) :
    call.document = desk.buffer ∧
        effect (executeAt registry levels text) desk = call.outcome registry desk ∨
      ∃ range, desk.buffer.slice? range.start range.stop = some call.document ∧
        effect (executeAt registry levels text) desk =
          afterNested (desk.settled text) range (call.outcome registry desk) := by
  obtain ⟨b, files, sink⟩ := desk
  fun_induction call? registry levels text b with
  | case1 => contradiction
  | case2 levels text b plain =>
    have direct : effect (executeAt registry levels text) ⟨b, files, sink⟩ =
        effect (runCommand registry 0 text) ⟨b, files, sink⟩ := effect_executeAt_command plain
    exact .inl ⟨(directCall?_eq_some called).1, direct.trans (effect_runCommand_called called 0)⟩
  | case3 => contradiction
  | case4 => contradiction
  | case5 => contradiction
  | case6 text b p parsed slice cut more levels ih =>
    have blank : Text.allBlank p.rest = false := by simpa using more
    have nested : effect (executeAt registry (levels + 1) text) ⟨b, files, sink⟩ =
        afterNested (Desk.settled ⟨b, files, sink⟩ text) p.range
          (effect (executeAt registry levels p.rest) ⟨slice, files, sink⟩) :=
      effect_executeAt_nested parsed cut blank
    rcases ih called with ⟨same, inner⟩ | ⟨range, again, inner⟩
    · refine .inr ⟨p.range, by rw [cut, same], ?_⟩
      rw [nested, inner]
      rfl
    · obtain ⟨ordered, bounded, -⟩ := Buffer.slice?_eq_some_iff.mp again
      refine .inr ⟨⟨p.range.start + range.start, p.range.start + range.stop⟩,
        Buffer.slice?_slice cut again, ?_⟩
      rw [nested, inner]
      exact afterNested_afterNested (Desk.settled ⟨b, files, sink⟩ text) p.range p.rest _ cut ordered
        bounded

/-- A text that calls nothing moves the current line at most, whether it succeeds or fails. -/
theorem effect_executeAt_uncalled (none : call? registry levels text desk.buffer = none) :
    ∃ result cursor sink, effect (executeAt registry levels text) desk =
      (result, ⟨{ desk.buffer with cursor }, desk.files, sink⟩) := by
  obtain ⟨b, files, sink⟩ := desk
  fun_induction call? registry levels text b with
  | case1 levels text b e refused => exact ⟨_, _, sink, effect_executeAt_refused refused⟩
  | case2 levels text b plain =>
    have here : directCall? registry text (Desk.mk b files sink).buffer = .none := none
    obtain ⟨result, left, done⟩ := effect_runCommand_uncalled here 0
    have direct : effect (executeAt registry levels text) ⟨b, files, sink⟩ =
        effect (runCommand registry 0 text) ⟨b, files, sink⟩ := effect_executeAt_command plain
    exact ⟨result, b.cursor, left, direct.trans done⟩
  | case3 levels text b p parsed cut =>
    exact ⟨_, _, sink, effect_executeAt_outside registry levels parsed cut⟩
  | case4 levels text b p parsed slice cut blank =>
    obtain ⟨result, cursor, left, shown⟩ :=
      effect_showRange_moves 0 p.range slice (Desk.settled ⟨b, files, sink⟩ text)
    have bare : effect (executeAt registry levels text) ⟨b, files, sink⟩ =
        effect (showRange 0 p.range slice) (Desk.settled ⟨b, files, sink⟩ text) :=
      effect_executeAt_shown parsed cut blank
    exact ⟨result, cursor, left, bare.trans shown⟩
  | case5 text b p parsed slice cut more =>
    have blank : Text.allBlank p.rest = false := by simpa using more
    exact ⟨_, _, sink, effect_executeAt_tooDeep parsed cut blank⟩
  | case6 text b p parsed slice cut more levels ih =>
    have blank : Text.allBlank p.rest = false := by simpa using more
    have nested : effect (executeAt registry (levels + 1) text) ⟨b, files, sink⟩ =
        afterNested (Desk.settled ⟨b, files, sink⟩ text) p.range
          (effect (executeAt registry levels p.rest) ⟨slice, files, sink⟩) :=
      effect_executeAt_nested parsed cut blank
    obtain ⟨result, cursor, left, inner⟩ := ih none
    cases result with
    | error e =>
      refine ⟨.error e, b.cursorAfter text, left, ?_⟩
      rw [nested, inner]
      rfl
    | ok flow =>
      obtain ⟨moved, back⟩ := Buffer.exists_restore cut (b.cursorAfter text) cursor
      refine ⟨.ok flow, moved, left, ?_⟩
      rw [nested, inner, ← back]
      rfl

theorem call?_get? (called : call? registry levels text b = some call) :
    registry.get? call.command.name = some call.command := by
  fun_induction call? registry levels text b with
  | case1 => contradiction
  | case2 levels text b plain =>
    obtain ⟨-, line, -, found, -⟩ := directCall?_eq_some called
    rw [Registry.name_of_get? found, found]
  | case3 => contradiction
  | case4 => contradiction
  | case5 => contradiction
  | case6 text b p parsed slice cut more levels ih => exact ih called

/-- What a command is given belongs to the same file as the document and has the same terminator, and it
has no lines if the document has none. -/
structure Buffer.Lends (b document : Buffer) : Prop where
  file : document.file = b.file
  ending : document.ending = b.ending
  empty : b.isEmpty = true → document.isEmpty = true

theorem Buffer.lends_slice {b document : Buffer} (cut : b.slice? start stop = some document) :
    b.Lends document := by
  obtain ⟨-, -, rfl⟩ := slice?_eq_some_iff.mp cut
  refine ⟨rfl, rfl, fun empty => ?_⟩
  obtain none : b.lines = [] := List.isEmpty_iff.mp empty
  simp [isEmpty, none]

/-- What a document has when a call for it has succeeded: its own numbering, the file of what the command
was given and, if there were no lines in the document, also the terminator of that. -/
structure Buffer.Takes (old given new : Buffer) : Prop where
  firstNumber : new.firstNumber = old.firstNumber
  file : new.file = given.file
  ending : new.ending = if old.isEmpty then given.ending else old.ending
  lines : given.lines <:+: new.lines

theorem Buffer.takes_of_carries {old new : Buffer} (carries : old.Carries new) : old.Takes new new := by
  refine ⟨carries.firstNumber, rfl, ?_, List.infix_rfl⟩
  cases empty : old.isEmpty with
  | true => rfl
  | false => exact carries.ending empty

theorem Buffer.takes_restore {b document given : Buffer} (lends : b.Lends document)
    (carries : document.Carries given) (cursor : Option Nat) (range : LineRange) :
    b.Takes given ({ b with cursor }.restore range given) := by
  have file : given.file.or b.file = given.file := by
    rw [← lends.file]
    exact carries.file
  rw [restore_eq]
  exact ⟨rfl, file, rfl, List.infix_append _ _ _⟩

/-- How a call that has come to something on the document it was given ends for the whole document: a
failure moves the current line at most. -/
inductive Settles (old : Buffer) :
    Except CommandError Flow × Desk → Except CommandError Flow × Desk → Prop where
  | failed (e : CommandError) (left : Desk) (cursor : Option Nat) :
      Settles old (.error e, left) (.error e, { left with buffer := { old with cursor } })
  | done (flow : Flow) (left : Desk) (new : Buffer) : old.Takes left.buffer new →
      Settles old (.ok flow, left) (.ok flow, { left with buffer := new })

variable {old : Buffer} {inner outcome : Except CommandError Flow × Desk}

theorem Settles.of_error (settles : Settles old (.error e, left) outcome) :
    outcome.1 = .error e ∧ outcome.2.files = left.files ∧
      ∃ cursor, outcome.2.buffer = { old with cursor } := by
  cases settles with
  | failed e left cursor => exact ⟨rfl, rfl, cursor, rfl⟩

theorem Settles.of_ok (settles : Settles old (.ok flow, left) outcome) :
    outcome.1 = .ok flow ∧ outcome.2.files = left.files ∧ old.Takes left.buffer outcome.2.buffer := by
  cases settles with
  | done flow left new takes => exact ⟨rfl, rfl, takes⟩

theorem Settles.result (settles : Settles old inner outcome) : outcome.1 = inner.1 := by
  cases settles <;> rfl

theorem Settles.files (settles : Settles old inner outcome) :
    outcome.2.files = inner.2.files := by
  cases settles <;> rfl

theorem Settles.firstNumber (settles : Settles old inner outcome) :
    outcome.2.buffer.firstNumber = old.firstNumber := by
  cases settles with
  | failed e left cursor => rfl
  | done flow left new takes => exact takes.firstNumber

theorem Settles.file (settles : Settles old inner outcome) :
    outcome.2.buffer.file = if outcome.1.isOk then inner.2.buffer.file else old.file := by
  cases settles with
  | failed e left cursor => rfl
  | done flow left new takes => exact takes.file

theorem Settles.ending (settles : Settles old inner outcome) :
    outcome.2.buffer.ending =
      if outcome.1.isOk ∧ old.isEmpty then inner.2.buffer.ending else old.ending := by
  cases settles with
  | failed e left cursor => rfl
  | done flow left new takes =>
    rw [takes.ending]
    exact if_congr (iff_and_self.mpr fun _ => rfl) rfl rfl

theorem lends_of_called (called : call? registry levels text desk.buffer = some call) :
    desk.buffer.Lends call.document := by
  rcases effect_executeAt_called called with ⟨same, -⟩ | ⟨range, cut, -⟩
  · rw [same]
    exact ⟨rfl, rfl, id⟩
  · exact Buffer.lends_slice cut

theorem settles_executeAt (builtin : registry.commands = Registry.builtin.commands)
    (called : call? registry levels text desk.buffer = some call) :
    Settles desk.buffer (call.outcome registry desk) (effect (executeAt registry levels text) desk) := by
  have member : call.command ∈ Registry.builtin.commands :=
    builtin ▸ Registry.mem_of_get? (call?_get? called)
  have makes := Registry.builtin_makes member registry.catalogue call.values
    { desk with buffer := call.document }
  have carries : call.document.Carries (call.outcome registry desk).2.buffer := makes.carries
  have clean := Registry.builtin_failsClean member registry.catalogue call.values
    { desk with buffer := call.document }
  change ∀ e, (call.outcome registry desk).1 = .error e →
    (call.outcome registry desk).2.buffer = call.document at clean
  have lends := lends_of_called called
  rcases effect_executeAt_called called with ⟨same, outcome⟩ | ⟨range, cut, outcome⟩
  · rw [outcome]
    rw [same] at carries clean
    generalize call.outcome registry desk = inner at carries clean
    obtain ⟨result, left⟩ := inner
    cases result with
    | error e =>
      have kept : left = { left with buffer := desk.buffer } := by rw [← clean e rfl]
      nth_rewrite 2 [kept]
      exact .failed e left desk.buffer.cursor
    | ok flow => exact .done flow left left.buffer (Buffer.takes_of_carries carries)
  · rw [outcome]
    generalize call.outcome registry desk = inner at carries
    obtain ⟨result, left⟩ := inner
    cases result with
    | error e => exact .failed e left _
    | ok flow => exact .done flow left _ (Buffer.takes_restore lends carries _ range)

end Calls

/-! ### Runs -/

section Runs

variable {registry : Registry} {desk : Desk} {request : Request} {call : Call}

theorem Registry.settles_perform (builtin : registry.commands = Registry.builtin.commands)
    (called : registry.called? desk request = some call) :
    Settles desk.buffer (call.outcome registry { desk with sink := request.sink })
      (registry.perform desk request) := by
  have here : call? registry (maxDepth - 1) request.text.toList
      { desk with sink := request.sink }.buffer = some call := called
  exact settles_executeAt builtin here

theorem Registry.lends_called (called : registry.called? desk request = some call) :
    desk.buffer.Lends call.document :=
  lends_of_called (show call? registry _ _ desk.buffer = some call from called)

theorem Registry.perform_uncalled (none : registry.called? desk request = none) :
    ∃ result cursor sink, registry.perform desk request =
      (result, ⟨{ desk.buffer with cursor }, desk.files, sink⟩) := by
  have here : call? registry (maxDepth - 1) request.text.toList
      { desk with sink := request.sink }.buffer = .none := none
  exact effect_executeAt_uncalled here

/-- What a run leaves somewhere is what was noted last, if every request leaves there what is noted about
it, and otherwise what was there before. -/
theorem Registry.performAll_last (value : Desk → β) {note : Desk → Request → Option α} {place : α → β}
    (step : ∀ desk request, value (registry.perform desk request).2 =
      ((note desk request).map place).getD (value desk))
    (desk : Desk) (requests : List Request) :
    value (registry.performAll desk requests) =
      ((registry.noted note desk requests).getLast?.map place).getD (value desk) := by
  induction requests generalizing desk with
  | nil => rfl
  | cons request later ih =>
    have next := ih (registry.perform desk request).2
    rw [step] at next
    change value (registry.performAll (registry.perform desk request).2 later) = _
    rw [next, noted]
    generalize registry.noted note (registry.perform desk request).2 later = rest
    cases note desk request with
    | none => rfl
    | some a =>
      rw [Option.toList_some, List.singleton_append, List.getLast?_cons]
      cases rest.getLast? <;> rfl

end Runs
end LineEditor
