import LineEditor.Proofs.Bounds
import LineEditor.Proofs.Nested
import LineEditor.Proofs.Sentence

/-! Commands behind ranges that only look at the lines they are given. Putting back what has not been
changed changes nothing, so at every depth the document is left as reading the ranges has left it. -/
namespace LineEditor
open LineEditor.Action (effect)
open LineEditor.LineRange (composed)

/-! ### Where a command text begins -/

theorem Words.sentence_of_allBlank (blank : Text.allBlank text = true) : Sentence text [] := by
  induction text with
  | nil => exact .nil
  | cons c text ih =>
    rw [Text.allBlank_cons, Bool.and_eq_true] at blank
    exact .blank blank.1 (ih blank.2)

def Words.Heads (text value : List Char) : Prop :=
  ∀ c ∈ text.head?, c = '\\' ∨ c = '\'' ∨ c = '"' ∨ value.head? = some c

theorem Words.Segment.heads (segment : Segment text value) (rest later : List Char) :
    Heads (text ++ rest) (value ++ later) := by
  intro d head
  cases segment <;> cases head <;> simp

theorem Words.IsWord.heads (word : IsWord text value) (rest : List Char) :
    Heads (text ++ rest) value := by
  cases word with
  | last segment =>
    have heads := segment.heads rest []
    rwa [List.append_nil] at heads
  | @more first _ tail later segment _ =>
    rw [List.append_assoc]
    exact segment.heads (tail ++ rest) later

theorem Words.Heads.foreign (heads : Heads text value) (foreign : RangeForm.Foreign value) :
    RangeForm.Foreign text := by
  intro c head
  rcases heads c head with rfl | rfl | rfl | own
  · simp [Address.Begins]
  · simp [Address.Begins]
  · simp [Address.Begins]
  · exact foreign c own

/-- What may stand behind a range does so whatever its first word is written like. -/
theorem Words.Sentence.foreign (sentence : Sentence text (first :: later))
    (foreign : RangeForm.Foreign first) : RangeForm.Foreign text := by
  cases sentence with
  | blank blank _ => exact RangeForm.foreign_of_blank blank
  | word word _ _ => exact (word.heads _).foreign foreign

variable {line : CommandLine}

theorem readCommand_eq_ok_iff :
    readCommand text = .ok line ↔
      line.name ≠ "" ∧ words text = .ok (line.name :: line.arguments) := by
  obtain ⟨name, arguments⟩ := line
  unfold readCommand
  cases words text with
  | error e => simp
  | ok found =>
    cases found with
    | nil => simp [CommandLine.ofWords?]
    | cons first later =>
      by_cases empty : first = ""
      · subst empty
        have unnamed : CommandLine.ofWords? ("" :: later) = none := rfl
        simp only [unnamed, reduceCtorEq, Except.ok.injEq, List.cons.injEq, false_iff]
        rintro ⟨named, rfl, -⟩
        exact named rfl
      · have named : first.isEmpty = false := by simpa [String.isEmpty_iff] using empty
        simp only [CommandLine.ofWords?, named, Bool.false_eq_true, if_false, Except.ok.injEq,
          CommandLine.mk.injEq, List.cons.injEq]
        constructor
        · rintro ⟨rfl, rfl⟩
          exact ⟨empty, rfl, rfl⟩
        · rintro ⟨-, rfl, rfl⟩
          exact ⟨rfl, rfl⟩

theorem nonblank_of_readCommand (said : readCommand text = .ok line) :
    Text.allBlank text = false := by
  cases blank : Text.allBlank text with
  | false => rfl
  | true =>
    have none := (Words.sentence_of_allBlank blank).words_eq
    rw [(readCommand_eq_ok_iff.mp said).2] at none
    cases none

theorem foreign_of_readCommand (said : readCommand text = .ok line)
    (foreign : RangeForm.Foreign line.name.toList) : RangeForm.Foreign text :=
  (Words.words_eq_ok_iff.mp (readCommand_eq_ok_iff.mp said).2).foreign foreign

/-- A command has no range in front of it if its name does not look like one. -/
theorem Buffer.range_of_readCommand (b : Buffer) (said : readCommand text = .ok line)
    (foreign : RangeForm.foreign? line.name.toList = true) : b.range text = .ok none :=
  b.range_eq_none_iff.mpr (RangeForm.reads_of_foreign
    (foreign_of_readCommand said (RangeForm.foreign_of_foreign? foreign)))

/-! ### The lines that ranges name -/

/-- The lines that are named by ranges of which each is read in the lines of the one before. Without a
range these are all lines. -/
def Buffer.named (b : Buffer) : List ParsedRange → LineRange
  | [] => ⟨0, b.count⟩
  | p :: later => composed ((p :: later).map (·.range))

namespace Nested

variable {b inner : Buffer} {text command : List Char} {ranges : List ParsedRange}

theorem lines (nested : Nested b text ranges inner command) :
    inner.lines = (b.lines.take (b.named ranges).stop).drop (b.named ranges).start := by
  cases ranges with
  | nil =>
    cases nested
    exact (List.take_length).symm
  | cons p later =>
    obtain ⟨-, -, same⟩ := Buffer.slice?_eq_some_iff.mp nested.slice
    exact congrArg Buffer.lines same

theorem firstNumber (nested : Nested b text ranges inner command) :
    inner.firstNumber = b.numberAt (b.named ranges).start := by
  cases ranges with
  | nil =>
    cases nested
    exact b.numberAt_zero.symm
  | cons p later =>
    exact Buffer.slice_firstNumber nested.slice

/-- Only a `;` in the first range moves the current line of the document. -/
theorem cursorAfter (nested : Nested b text ranges inner command) (valid : b.Valid)
    (head : inner.range command = .ok none ∨ ranges ≠ []) :
    b.cursorAfter text = (ranges.head?.bind (·.moved)).or b.cursor := by
  cases ranges with
  | nil =>
    cases nested
    exact b.cursorAfter_of_absent (head.resolve_right (· rfl))
  | cons p later =>
    obtain ⟨slice, parsed, -, -⟩ := nested.first
    exact b.cursorAfter_of_parsed valid parsed

end Nested

/-! ### What comes of looking -/

variable {registry : Registry} {desk left : Desk} {text command : List Char}
  {inner : Buffer} {ranges : List ParsedRange} {levels : Nat}

/-- Lines that have not been changed are put back without effect; only a file may be taken over. -/
theorem afterNested_slice (valid : desk.buffer.Valid) {range : LineRange}
    (cut : desk.buffer.slice? range.start range.stop = some inner)
    (result : Except CommandError Flow) (there : Option Nat) (file : Option String)
    (kept : left.buffer = { inner with cursor := there, file }) :
    afterNested (desk.settled text) range (result, left) =
      (result, { left with buffer := { (desk.settled text).buffer with
        file := if result.isOk then file.or desk.buffer.file else desk.buffer.file } }) := by
  cases result with
  | error e => rfl
  | ok flow =>
    have settled := Buffer.keepCursor_of_valid (Buffer.cursorAfter_valid valid text)
    have back := Buffer.restore_slice cut (desk.buffer.cursorAfter text) there file
    rw [settled] at back
    rw [afterNested, kept]
    let outcome (b : Buffer) : Except CommandError Flow × Desk := (.ok flow, { left with buffer := b })
    exact congrArg outcome back

theorem afterNested_unchanged (valid : desk.buffer.Valid) {range : LineRange}
    (cut : desk.buffer.slice? range.start range.stop = some inner)
    (result : Except CommandError Flow) (there : Option Nat) (files : FileTree) (sink : Sink) :
    afterNested (desk.settled text) range (result, ⟨{ inner with cursor := there }, files, sink⟩) =
      (result, ⟨(desk.settled text).buffer, files, sink⟩) := by
  have file : inner.file = desk.buffer.file := by
    obtain ⟨-, -, rfl⟩ := Buffer.slice?_eq_some_iff.mp cut
    rfl
  rw [afterNested_slice valid cut result there inner.file rfl, file, Option.or_self, ite_self]
  rfl

/-- At every depth up to the limit a text either is the command itself or does it on some lines. -/
theorem effect_executeAt_lines (nested : Nested desk.buffer text ranges inner command)
    (valid : desk.buffer.Valid) (few : ranges.length ≤ levels)
    (nonblank : Text.allBlank command = false) (plain : inner.range command = .ok none) :
    let outcome := effect (runCommand registry 0 command) { desk with buffer := inner }
    (desk.buffer = inner ∧ desk.settled text = desk ∧
        effect (executeAt registry levels text) desk = outcome) ∨
      ∃ range : LineRange, desk.buffer.slice? range.start range.stop = some inner ∧
        effect (executeAt registry levels text) desk = afterNested (desk.settled text) range outcome := by
  cases ranges with
  | nil =>
    cases nested
    refine .inl ⟨rfl, ?_, effect_executeAt_command plain⟩
    rw [Desk.settled, desk.buffer.cursorAfter_of_absent plain]
  | cons p later =>
    obtain ⟨free, rfl⟩ := Nat.exists_eq_add_of_le' few
    refine .inr ⟨composed ((p :: later).map (·.range)), nested.slice, ?_⟩
    rw [List.length_cons, effect_executeAt_behind nested valid nonblank, effect_executeAt_command plain]

/-- What only looks at the lines it is given leaves the document as reading the ranges has left it, but for
the file, which is the command's own without a range. -/
theorem effect_executeAt_looks (nested : Nested desk.buffer text ranges inner command)
    (valid : desk.buffer.Valid) (few : ranges.length ≤ levels)
    (nonblank : Text.allBlank command = false) (plain : inner.range command = .ok none)
    (looks : effect (runCommand registry 0 command) { desk with buffer := inner } = (result, left))
    (kept : left.buffer = { inner with file }) :
    ∃ file, effect (executeAt registry levels text) desk =
      (result, { left with buffer := { (desk.settled text).buffer with file } }) := by
  rcases effect_executeAt_lines nested valid few nonblank plain with
    ⟨same, still, alone⟩ | ⟨range, cut, behind⟩
  · refine ⟨file, ?_⟩
    rw [alone, looks, still, same, ← kept]
  · exact ⟨_, by rw [behind, looks, afterNested_slice valid cut result inner.cursor file kept]⟩

/-- What changes no more than the files and the display comes to the same behind any ranges that name
its lines. -/
theorem effect_executeAt_unchanged (nested : Nested desk.buffer text ranges inner command)
    (valid : desk.buffer.Valid) (few : ranges.length ≤ levels)
    (nonblank : Text.allBlank command = false) (plain : inner.range command = .ok none)
    (unchanged : effect (runCommand registry 0 command) { desk with buffer := inner } =
      (result, ⟨inner, files, sink⟩)) :
    effect (executeAt registry levels text) desk =
      (result, ⟨(desk.settled text).buffer, files, sink⟩) := by
  rcases effect_executeAt_lines nested valid few nonblank plain with
    ⟨same, still, alone⟩ | ⟨range, cut, behind⟩
  · rw [alone, unchanged, still, same]
  · rw [behind, unchanged]
    exact afterNested_unchanged valid cut result inner.cursor files sink

theorem effect_executeAt_shows (nested : Nested desk.buffer text ranges inner command)
    (valid : desk.buffer.Valid) (few : ranges.length ≤ levels)
    (nonblank : Text.allBlank command = false) (plain : inner.range command = .ok none)
    (shows : effect (runCommand registry 0 command) { desk with buffer := inner } =
      Desk.shown { desk with buffer := inner } shown flow) :
    effect (executeAt registry levels text) desk = (desk.settled text).shown shown flow :=
  effect_executeAt_unchanged nested valid few nonblank plain shows

theorem Buffer.moveTo_last? (b : Buffer) (range : LineRange) (ordered : range.start ≤ range.stop)
    (bounded : range.stop ≤ b.count) :
    range.last?.elim b b.moveTo =
      if range.start < range.stop then { b with cursor := some (range.stop - 1) } else b := by
  unfold LineRange.last? LineRange.isEmpty
  rcases Nat.lt_or_eq_of_le ordered with filled | empty
  · have inside : range.stop - 1 < b.count := by omega
    have nonempty : (range.start == range.stop) = false := beq_false_of_ne (Nat.ne_of_lt filled)
    rw [nonempty, if_pos filled]
    exact if_pos inside
  · rw [empty, beq_self_eq_true, if_neg (Nat.lt_irrefl range.stop)]
    rfl

theorem effect_showRange_shown (range : LineRange) (slice : Buffer) (desk : Desk)
    (ordered : range.start ≤ range.stop) (bounded : range.stop ≤ desk.buffer.count) :
    let lines := String.join (slice.lines.map (· ++ "\n"))
    effect (showRange 0 range slice) desk =
      Desk.shown { desk with
        buffer := if range.start < range.stop ∧ (desk.sink.write lines).2 then
          { desk.buffer with cursor := some (range.stop - 1) } else desk.buffer } lines .proceed := by
  intro lines
  have last := desk.buffer.moveTo_last? range ordered bounded
  rw [effect_showRange, Commands.effect_printLines, Desk.shown, Desk.shown]
  cases taken : (desk.sink.write lines).2 with
  | true => simp [lines, last]
  | false => simp [lines]

/-- Behind ranges with nothing behind them their lines are shown. A single range that is not empty moves
the current line to its end then; of several ranges the last one only moves that of a slice. -/
theorem effect_executeAt_bare (nested : Nested desk.buffer text ranges inner command)
    (valid : desk.buffer.Valid) (ranged : ranges ≠ []) (few : ranges.length ≤ levels + 1)
    (blank : Text.allBlank command = true) :
    let range := desk.buffer.named ranges
    let lines := String.join (inner.lines.map (· ++ "\n"))
    let settled := (desk.settled text).buffer
    effect (executeAt registry levels text) desk =
      Desk.shown { desk with
        buffer := if ranges.length = 1 ∧ range.start < range.stop ∧ (desk.sink.write lines).2 then
          { settled with cursor := some (range.stop - 1) } else settled } lines .proceed := by
  induction ranges generalizing desk text levels with
  | nil => contradiction
  | cons p later ih =>
    intro range lines settled
    obtain ⟨slice, parsed, cut, further⟩ := nested.first
    cases later with
    | nil =>
      cases further
      obtain ⟨ordered, bounded, -⟩ := desk.buffer.range_within valid parsed
      have whole : range = p.range := LineRange.composed_singleton p.range ordered
      have shown := effect_showRange_shown p.range inner (desk.settled text) ordered bounded
      rw [effect_executeAt_shown parsed cut blank, shown, whole]
      simp only [List.length_singleton, true_and]
      rfl
    | cons next later =>
      obtain ⟨-, behind, -, -⟩ := further.first
      obtain ⟨levels, rfl⟩ := Nat.exists_eq_add_one.mpr (by simp at few; omega : 0 < levels)
      have inside : ∃ there, effect (executeAt registry levels p.rest) { desk with buffer := slice } =
          Desk.shown { desk with buffer := { slice with cursor := there } } lines .proceed := by
        have shown : effect (executeAt registry levels p.rest) { desk with buffer := slice } = _ :=
          ih further (Buffer.slice_valid cut) (List.cons_ne_nil next later) (Nat.le_of_succ_le_succ few)
        split at shown
        · exact ⟨_, shown⟩
        · exact ⟨_, shown⟩
      obtain ⟨there, shown⟩ := inside
      have several (P : Prop) : ¬ ((p :: next :: later).length = 1 ∧ P) := by simp
      rw [if_neg (several _), effect_executeAt_nested parsed cut (Buffer.nonblank_of_range behind),
        shown]
      exact afterNested_unchanged valid cut _ there _ _

/-- Behind more ranges than may be nested no command is done. -/
theorem effect_executeAt_tooMany (nested : Nested desk.buffer text ranges inner command)
    (many : levels < ranges.length) (nonblank : Text.allBlank command = false) :
    effect (executeAt registry levels text) desk = (.error .nestingTooDeep, desk.settled text) := by
  induction ranges generalizing desk text levels with
  | nil => contradiction
  | cons p later ih =>
    obtain ⟨slice, parsed, cut, further⟩ := nested.first
    have more := further.nonblank nonblank
    cases levels with
    | zero => exact effect_executeAt_tooDeep parsed cut more
    | succ levels =>
      have inside : effect (executeAt registry levels p.rest) { desk with buffer := slice } = _ :=
        ih further (Nat.lt_of_succ_lt_succ many)
      rw [effect_executeAt_nested parsed cut more, inside]
      rfl

end LineEditor
