import LineEditor.Proofs.Builtin
import LineEditor.Proofs.Failure
import LineEditor.Proofs.Followed

/-! A command behind `,` and the same command alone. Behind `,` it works on a copy of the whole document
that is put back, alone on the document itself; both come to the same but for the current line. -/
namespace LineEditor
open LineEditor.Action (effect)

theorem RangeReader.endpoint_comma (r : RangeReader) (which : Endpoint) (text : List Char) :
    r.endpoint which (',' :: text) = .ok none :=
  r.endpoint_of_none which (.none fun _ _ => Address.not_reads_comma)

namespace Buffer

theorem skipped_of_range {b : Buffer} (plain : b.range text = .ok none) :
    Address.ReadsOptional text none text := by
  cases b.range_eq_none_iff.mp plain with
  | absent skipped _ => exact skipped

/-- A comma with no address on either side means all lines. -/
theorem range_comma (b : Buffer) (skipped : Address.ReadsOptional text none text) :
    b.range (',' :: text) = .ok (some ⟨text, ⟨0, b.count⟩, none⟩) := by
  have first := RangeReader.endpoint_comma (RangeReader.new b.cursor b.count) .first text
  have last := RangeReader.endpoint_of_none (RangeReader.new b.cursor b.count) .last skipped
  simp only [range, RangeReader.read, first, Option.elim, Option.map, Option.getD,
    RangeReader.finish, last]
  rfl

theorem cursorAfter_comma (b : Buffer) (text : List Char) : b.cursorAfter (',' :: text) = b.cursor := by
  simp [cursorAfter, RangeReader.endpoint_comma]

theorem slice?_whole (b : Buffer) : b.slice? 0 b.count = some { b with cursor := b.last } := by
  simp [slice?, count, last]

/-- Putting a copy of the whole document back makes the copy the document, with the old current line
if there still is such a line. -/
theorem restore_whole {b copy : Buffer} (carries : b.Carries copy) :
    b.restore ⟨0, b.count⟩ copy =
      { copy with cursor := keepCursor b.cursor copy.lines } := by
  have ending : (if b.isEmpty then copy.ending else b.ending) = copy.ending := by
    cases filled : b.isEmpty with
    | true => rfl
    | false => exact (carries.ending filled).symm
  simp [restore_eq, count, carries.file, carries.firstNumber, ending]

end Buffer

def Desk.atLast (desk : Desk) : Desk :=
  { desk with buffer := { desk.buffer with cursor := desk.buffer.last } }

variable {registry : Registry} {desk : Desk} {text : List Char}

/-- What stands behind a comma may begin with a range, but not with an address. -/
theorem effect_executeAt_whole (skipped : Address.ReadsOptional text none text)
    (nonblank : Text.allBlank text = false) :
    effect (executeAt registry (levels + 1) (',' :: text)) desk =
      afterNested desk ⟨0, desk.buffer.count⟩
        (effect (executeAt registry levels text) desk.atLast) := by
  have parsed := desk.buffer.range_comma skipped
  have still : desk.settled (',' :: text) = desk := by
    rw [Desk.settled, Buffer.cursorAfter_comma]
  have nested : effect (executeAt registry (levels + 1) (',' :: text)) desk =
      afterNested (desk.settled (',' :: text)) ⟨0, desk.buffer.count⟩
        (effect (executeAt registry levels text) desk.atLast) :=
    effect_executeAt_nested parsed desk.buffer.slice?_whole nonblank
  rw [nested, still]

theorem effect_executeAt_comma (plain : desk.buffer.range text = .ok none)
    (nonblank : Text.allBlank text = false) :
    effect (executeAt registry (levels + 1) (',' :: text)) desk =
      afterNested desk ⟨0, desk.buffer.count⟩
        (effect (runCommand registry 0 text) desk.atLast) := by
  have alone : effect (executeAt registry levels text) desk.atLast =
      effect (runCommand registry 0 text) desk.atLast :=
    effect_executeAt_command ((Buffer.range_eq_none_iff _).mpr (desk.buffer.range_eq_none_iff.mp plain))
  rw [effect_executeAt_whole (Buffer.skipped_of_range plain) nonblank, alone]

/-- Behind `,` a command does what it does alone with the last line current: it comes to the same, shows
the same, does the same to the files and leaves the same document. Only the current line is another
one: it is the old one as long as there is such a line. -/
theorem execute_comma (width : Nat) (text : String) (desk : Desk) (valid : desk.buffer.Valid)
    (nonblank : Text.allBlank text.toList = false)
    (plain : desk.buffer.range text.toList = .ok none) :
    let registry := { Registry.builtin with numberWidth := width }
    let alone := effect (execute registry text) desk.atLast
    effect (execute registry ("," ++ text)) desk =
      (alone.1, { alone.2 with
        buffer := { alone.2.buffer with
          cursor := Buffer.keepCursor desk.buffer.cursor alone.2.buffer.lines } }) := by
  intro registry alone
  have split : ("," ++ text).toList = ',' :: text.toList := String.toList_append
  have ranged : execute registry ("," ++ text) = executeAt registry (62 + 1) (',' :: text.toList) := by
    rw [← split]
    rfl
  have inner : desk.atLast.buffer.range text.toList = .ok none :=
    (Buffer.range_eq_none_iff _).mpr (desk.buffer.range_eq_none_iff.mp plain)
  have direct : alone = effect (runCommand registry 0 text.toList) desk.atLast :=
    effect_executeAt_command inner
  rw [ranged, effect_executeAt_comma plain nonblank, ← direct]
  obtain ⟨name, values, makes⟩ := (runsCommand_runCommand registry 0 text.toList desk.atLast).makes rfl
  have clean : Action.FailsClean (runCommand registry 0 text.toList) :=
    failsClean_runCommand 0 fun _ member => Registry.builtin_failsClean member
  have clean := clean desk.atLast
  rw [← direct] at makes clean
  obtain ⟨result, left⟩ := alone
  cases result with
  | ok flow =>
    have carries : desk.buffer.Carries left.buffer :=
      ⟨makes.carries.firstNumber, makes.carries.file, makes.carries.ending⟩
    rw [afterNested, Buffer.restore_whole carries]
  | error e =>
    have same : left.buffer = desk.atLast.buffer := clean e rfl
    have still : Buffer.keepCursor desk.buffer.cursor desk.atLast.buffer.lines = desk.buffer.cursor :=
      Buffer.keepCursor_of_valid valid
    rw [afterNested, same, still]
    rfl

/-- A line that is put in behind `,` goes to the end of the document, but the current line stays. -/
theorem execute_comma_insert :
    let registry := { Registry.builtin with numberWidth := 6 }
    let desk : Desk := ⟨{ Buffer.ofLines ["a", "b"] with cursor := some 0 }, ⟨[], []⟩, .unlimited⟩
    let alone := effect (execute registry "i x") desk.atLast
    desk.buffer.Valid ∧ Text.allBlank "i x".toList = false ∧ desk.buffer.range "i x".toList = .ok none ∧
      alone.2.buffer = .ofLines ["a", "b", "x"] ∧
      (effect (execute registry ",i x") desk).2.buffer =
        { Buffer.ofLines ["a", "b", "x"] with cursor := some 0 } := by
  intro registry desk alone
  have valid : desk.buffer.Valid := by decide
  have nonblank : Text.allBlank "i x".toList = false := by decide +kernel
  have plain : desk.buffer.range "i x".toList = .ok none := by decide +kernel
  have left : alone.2.buffer = .ofLines ["a", "b", "x"] := by decide +kernel
  refine ⟨valid, nonblank, plain, left, ?_⟩
  have behind := execute_comma 6 "i x" desk valid nonblank plain
  have whole : (effect (execute registry ",i x") desk).2.buffer =
      { alone.2.buffer with cursor := Buffer.keepCursor (some 0) alone.2.buffer.lines } :=
    congrArg (fun outcome => outcome.2.buffer) behind
  rw [whole, left]
  rfl

end LineEditor
