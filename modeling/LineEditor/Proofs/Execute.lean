import LineEditor.Proofs.Action
import LineEditor.Proofs.Slice

/-! What doing a command text comes to: one rule for each way in which a text can go on behind the
range at its head. Proofs about `executeAt` cite these rules and do not open it. -/
namespace LineEditor
open LineEditor.Action (effect andThen)

/-- The desk once the range at the head of a text has been read. -/
def Desk.settled (desk : Desk) (text : List Char) : Desk :=
  { desk with buffer := { desk.buffer with cursor := desk.buffer.cursorAfter text } }

theorem effect_report_range (reader : RangeReader)
    (parsed : Except AddressError (Option ParsedRange)) (desk : Desk) :
    effect (reader.report parsed) desk = (.ok (), desk) := by
  cases parsed with
  | error e => rfl
  | ok found => cases found <;> rfl

theorem effect_readRange (text : List Char) (desk : Desk) :
    effect (readRange text) desk =
      ((desk.buffer.range text).mapError .address, desk.settled text) := by
  have moved := desk.buffer.moveTo_read text
  simp only [readRange, Action.effect_bind, Action.effect_buffer, Action.andThen_ok,
    effect_report_range, Action.effect_edit, moved]
  rw [Buffer.range, Desk.settled]
  cases ((RangeReader.new desk.buffer.cursor desk.buffer.count).read text).1 <;> rfl

theorem effect_readRange_error {desk : Desk} (refused : desk.buffer.range text = .error e) :
    effect (readRange text) desk = (.error (.address e), desk.settled text) := by
  rw [effect_readRange, refused]
  rfl

theorem effect_readRange_ok {desk : Desk} (parsed : desk.buffer.range text = .ok found) :
    effect (readRange text) desk = (.ok found, desk.settled text) := by
  rw [effect_readRange, parsed]
  rfl

variable {registry : Registry}

/-- The depth at which a command runs shows only in its events. -/
theorem effect_runCommand (depth : Nat) (text : List Char) (desk : Desk) :
    effect (runCommand registry depth text) desk =
      match readCommand text with
      | .error e => (.error e, desk)
      | .ok line =>
        match registry.get? line.name with
        | none => (.error (.unknownCommand line.name), desk)
        | some command => effect (command.run registry.catalogue line.arguments) desk := by
  simp only [runCommand, Action.effect_bind]
  cases readCommand text with
  | error e => rfl
  | ok line =>
    simp only [Action.effect_ofExcept_ok, Action.andThen_ok]
    cases registry.get? line.name with
    | none => rfl
    | some command => simp

theorem effect_runCommand_handled (depth : Nat) (desk : Desk) (said : readCommand text = .ok line)
    (found : registry.get? line.name = some c)
    (understood : c.grammar.read line.arguments = .ok values) :
    effect (runCommand registry depth text) desk = effect (c.handler registry.catalogue values) desk := by
  rw [effect_runCommand, said]
  simp only [found, Command.run, understood]

theorem effect_cutOut (range : LineRange) (desk : Desk)
    (cut : desk.buffer.slice? range.start range.stop = some slice) :
    effect (cutOut range) desk = (.ok slice, desk) := by
  simp [cutOut, cut]

theorem effect_cutOut_none (range : LineRange) (desk : Desk)
    (cut : desk.buffer.slice? range.start range.stop = none) :
    effect (cutOut range) desk =
      (.error (.bounds range.start range.stop desk.buffer.count), desk) := by
  simp [cutOut, cut]

theorem effect_putBack (depth : Nat) (range : LineRange) (slice : Buffer) (desk : Desk)
    (ordered : range.start ≤ range.stop) (bounded : range.stop ≤ desk.buffer.count) :
    effect (putBack depth range slice) desk =
      (.ok (), { desk with buffer := desk.buffer.restore range slice }) := by
  have splice : (adopt slice desk.buffer).splice? range.start range.stop slice.lines =
      some (desk.buffer.restore range slice) := by
    have same : (adopt slice desk.buffer).lines = desk.buffer.lines := by
      simp only [adopt]
      split <;> rfl
    have cursor : (adopt slice desk.buffer).cursor = desk.buffer.cursor := by
      simp only [adopt]
      split <;> rfl
    simp only [Buffer.count] at bounded
    simp [Buffer.splice?, Buffer.restore, Buffer.count, same, cursor, ordered, bounded]
  simp [putBack, splice]

theorem effect_showRange (depth : Nat) (range : LineRange) (slice : Buffer) (desk : Desk) :
    effect (showRange depth range slice) desk =
      match effect Commands.printLines { desk with buffer := slice } with
      | (.error e, shown) => (.error e, { shown with buffer := desk.buffer })
      | (.ok _, shown) =>
        (.ok .proceed, { shown with buffer := range.last?.elim desk.buffer desk.buffer.moveTo }) := by
  simp only [showRange, Action.effect_bind, Action.effect_on]
  cases effect Commands.printLines { desk with buffer := slice } with
  | mk result shown => cases result <;> rfl

variable {desk : Desk} {text : List Char} {p : ParsedRange} {levels : Nat}

theorem effect_executeAt_refused (refused : desk.buffer.range text = .error e) :
    effect (executeAt registry levels text) desk = (.error (.address e), desk.settled text) := by
  unfold executeAt
  simp [effect_readRange_error refused]

theorem effect_executeAt_command (absent : desk.buffer.range text = .ok none) :
    effect (executeAt registry levels text) desk = effect (runCommand registry 0 text) desk := by
  have still : desk.settled text = desk := by
    simp [Desk.settled, desk.buffer.cursorAfter_of_absent absent]
  unfold executeAt
  simp [effect_readRange_ok absent, still, effect_runCommand]

/-- No range that is read in a valid document gets here. -/
theorem effect_executeAt_outside (registry : Registry) (levels : Nat)
    (parsed : desk.buffer.range text = .ok (some p))
    (cut : desk.buffer.slice? p.range.start p.range.stop = none) :
    effect (executeAt registry levels text) desk =
      (.error (.bounds p.range.start p.range.stop desk.buffer.count), desk.settled text) := by
  have outside := effect_cutOut_none p.range (desk.settled text) cut
  unfold executeAt
  simp only [Action.effect_bind, effect_readRange_ok parsed, Action.andThen_ok, outside,
    Action.andThen_error]
  rfl

theorem effect_executeAt_shown (parsed : desk.buffer.range text = .ok (some p))
    (cut : desk.buffer.slice? p.range.start p.range.stop = some slice)
    (blank : Text.allBlank p.rest = true) :
    effect (executeAt registry levels text) desk =
      effect (showRange 0 p.range slice) (desk.settled text) := by
  unfold executeAt
  simp [effect_readRange_ok parsed, effect_cutOut p.range (desk.settled text) cut, blank,
    effect_showRange]

theorem effect_executeAt_tooDeep (parsed : desk.buffer.range text = .ok (some p))
    (cut : desk.buffer.slice? p.range.start p.range.stop = some slice)
    (more : Text.allBlank p.rest = false) :
    effect (executeAt registry 0 text) desk = (.error .nestingTooDeep, desk.settled text) := by
  unfold executeAt
  simp [effect_readRange_ok parsed, effect_cutOut p.range (desk.settled text) cut, more]

/-- What a nested command has done to its slice is put back if it has succeeded. -/
def afterNested (desk : Desk) (range : LineRange) :
    Except CommandError Flow × Desk → Except CommandError Flow × Desk
  | (.error e, inner) => (.error e, { inner with buffer := desk.buffer })
  | (.ok flow, inner) => (.ok flow, { inner with buffer := desk.buffer.restore range inner.buffer })

theorem effect_executeAt_nested (parsed : desk.buffer.range text = .ok (some p))
    (cut : desk.buffer.slice? p.range.start p.range.stop = some slice)
    (more : Text.allBlank p.rest = false) :
    effect (executeAt registry (levels + 1) text) desk =
      afterNested (desk.settled text) p.range
        (effect (executeAt registry levels p.rest) { desk with buffer := slice }) := by
  have range : p.range.start ≤ p.range.stop ∧ p.range.stop ≤ desk.buffer.count := by
    obtain ⟨ordered, bounded, -⟩ := Buffer.slice?_eq_some_iff.mp cut
    exact ⟨ordered, bounded⟩
  rw [executeAt]
  simp only [Action.effect_bind, effect_readRange_ok parsed, Action.andThen_ok,
    effect_cutOut p.range (desk.settled text) cut, more, Action.effect_on, Bool.false_eq_true,
    if_false]
  have inner : { desk.settled text with buffer := slice } = { desk with buffer := slice } := rfl
  rw [inner]
  cases effect (executeAt registry levels p.rest) { desk with buffer := slice } with
  | mk result left =>
    cases result with
    | error e => rfl
    | ok flow =>
      simp only [Except.map, Action.andThen_ok, Action.effect_bind, afterNested]
      rw [effect_putBack _ p.range left.buffer { left with buffer := (desk.settled text).buffer }
        range.1 range.2]
      rfl

end LineEditor
