import LineEditor.Proofs.Failure
import LineEditor.Proofs.Outcome

/-! Every slice lies inside its document. Whatever the commands do, lines are cut out of a document and
put back into it only between bounds that it has, and it has a current line again, or no line at all,
when the text has been done. Slices are numbered by sums of 64 bits, and these start over at zero, or stop
the program where sums are checked, only if there are not enough numbers for the document itself. -/
namespace LineEditor
open LineEditor.Action (effect)

def Command.KeepsValid (c : Command) : Prop :=
  ∀ catalogue values (desk : Desk), desk.buffer.Valid →
    (effect (c.handler catalogue values) desk).2.buffer.Valid

/-- The documents that doing a text cuts lines out of or puts lines back into, as they are just then,
with the range of these lines. -/
inductive Touches (registry : Registry) : Nat → List Char → Desk → Buffer → LineRange → Prop where
  | cutOut : desk.buffer.range text = .ok (some p) →
      Touches registry levels text desk (desk.settled text).buffer p.range
  | inside : desk.buffer.range text = .ok (some p) →
      desk.buffer.slice? p.range.start p.range.stop = some slice → Text.allBlank p.rest = false →
      Touches registry levels p.rest { desk with buffer := slice } b range →
      Touches registry (levels + 1) text desk b range
  | putBack : desk.buffer.range text = .ok (some p) →
      desk.buffer.slice? p.range.start p.range.stop = some slice → Text.allBlank p.rest = false →
      effect (executeAt registry levels p.rest) { desk with buffer := slice } = (.ok flow, left) →
      Touches registry (levels + 1) text desk (adopt left.buffer (desk.settled text).buffer) p.range

namespace Buffer

/-- The first line of the range has a number beyond the greatest one, so that no slice can be numbered
from there on. -/
def Overflows (b : Buffer) (range : LineRange) : Prop :=
  UInt64.size ≤ b.firstNumber.toNat + range.start

instance (b : Buffer) (range : LineRange) : Decidable (b.Overflows range) :=
  inferInstanceAs (Decidable (_ ≤ _))

theorem valid_of_kept {b : Buffer} (old : Option Nat)
    (kept : b.cursor = keepCursor old b.lines) : b.Valid := by
  have last : b.cursor = lastOf b.lines → b.Valid := by
    intro here
    have valid := lastOf_valid b b.lines
    rwa [← here] at valid
  cases old with
  | none => exact last kept
  | some i =>
    rw [keepCursor] at kept
    by_cases inside : i < b.lines.length
    · rw [if_pos inside] at kept
      simpa only [Valid, kept] using inside
    · rw [if_neg inside] at kept
      exact last kept

theorem restore_valid (b : Buffer) (range : LineRange) (slice : Buffer) :
    (b.restore range slice).Valid :=
  valid_of_kept b.cursor rfl

theorem adopt_count (slice b : Buffer) : (adopt slice b).count = b.count := by
  unfold adopt
  dsimp only
  split <;> rfl

theorem adopt_firstNumber (slice b : Buffer) : (adopt slice b).firstNumber = b.firstNumber := by
  unfold adopt
  dsimp only
  split <;> rfl

theorem cursorAfter_valid {b : Buffer} (valid : b.Valid) (text : List Char) :
    { b with cursor := b.cursorAfter text }.Valid := by
  rw [← b.moveTo_read text]
  cases ((RangeReader.new b.cursor b.count).read text).2.moved with
  | none => exact valid
  | some i => exact b.moveTo_valid valid i

end Buffer

variable {registry : Registry} {levels : Nat} {text : List Char} {desk : Desk}
  {outcome : Except CommandError Flow × Desk}

theorem Touches.within (touches : Touches registry levels text desk b range)
    (valid : desk.buffer.Valid) : range.start ≤ range.stop ∧ range.stop ≤ b.count := by
  induction touches with
  | cutOut parsed =>
    have within := Buffer.range_within _ valid parsed
    exact ⟨within.ordered, within.bounded⟩
  | inside _ cut _ _ ih => exact ih (Buffer.slice_valid cut)
  | putBack parsed _ _ _ =>
    have within := Buffer.range_within _ valid parsed
    rw [Buffer.adopt_count]
    exact ⟨within.ordered, within.bounded⟩

/-- Every document that is touched is numbered like the one that the text is done on, from some line on. -/
theorem Touches.number (touches : Touches registry levels text desk b range)
    (valid : desk.buffer.Valid) : ∃ skipped, b.firstNumber = desk.buffer.numberAt skipped ∧
      skipped + range.start ≤ desk.buffer.count := by
  induction touches with
  | cutOut parsed =>
    have within := Buffer.range_within _ valid parsed
    refine ⟨0, (Buffer.numberAt_zero _).symm, ?_⟩
    rw [Nat.zero_add]
    exact Nat.le_trans within.ordered within.bounded
  | inside parsed cut _ _ ih =>
    obtain ⟨skipped, number, bounded⟩ := ih (Buffer.slice_valid cut)
    obtain ⟨ordered, inside, -⟩ := Buffer.range_within _ valid parsed
    have further := Buffer.numberAt_numberAt (Buffer.slice_firstNumber cut) skipped
    refine ⟨_, number.trans further, ?_⟩
    dsimp only at bounded
    rw [Buffer.slice_count cut] at bounded
    omega
  | putBack parsed _ _ _ =>
    have within := Buffer.range_within _ valid parsed
    refine ⟨0, ?_, ?_⟩
    · rw [Buffer.adopt_firstNumber]
      exact (Buffer.numberAt_zero _).symm
    · rw [Nat.zero_add]
      exact Nat.le_trans within.ordered within.bounded

theorem Touches.not_overflows (touches : Touches registry levels text desk b range)
    (valid : desk.buffer.Valid)
    (enough : desk.buffer.firstNumber.toNat + desk.buffer.count < UInt64.size) :
    ¬ b.Overflows range := by
  obtain ⟨skipped, number, bounded⟩ := touches.number valid
  have first : b.firstNumber.toNat = desk.buffer.firstNumber.toNat + skipped := by
    rw [number]
    exact Buffer.toNat_numberAt (by omega)
  rw [Buffer.Overflows, first]
  omega

/-- There is no number for a second line behind the greatest one. -/
example : Buffer.Overflows ⟨["a", "b"], some 1, 0xFFFFFFFFFFFFFFFF, none, .lf⟩ ⟨1, 2⟩ := by decide

/-- Showing a range moves the current line at most. -/
theorem showRange_buffer (range : LineRange) (slice : Buffer) (desk : Desk) :
    ∃ moved : Option Nat, (effect (showRange 0 range slice) desk).2.buffer =
      moved.elim desk.buffer desk.buffer.moveTo := by
  rw [effect_showRange]
  cases effect Commands.printLines { desk with buffer := slice } with
  | mk result shown =>
    cases result with
    | error e => exact ⟨none, rfl⟩
    | ok _ => exact ⟨range.last?, rfl⟩

theorem keeps_usage (usage : String) :
    Action.Keeps (do .print usage; return Flow.proceed) :=
  (prints_usage usage).keeps

theorem RunsCommand.valid (run : RunsCommand registry text desk outcome)
    (keeps : ∀ c ∈ registry.commands, c.KeepsValid) (valid : desk.buffer.Valid) :
    outcome.2.buffer.Valid := by
  cases run with
  | unread _ => exact valid
  | unknown _ _ => exact valid
  | refused _ _ _ => exact valid
  | usage _ _ _ => rwa [keeps_usage]
  | handled _ found _ => exact keeps _ (Registry.mem_of_get? found) _ _ desk valid

theorem Executes.valid (run : Executes registry levels text desk outcome)
    (keeps : ∀ c ∈ registry.commands, c.KeepsValid) (valid : desk.buffer.Valid) :
    outcome.2.buffer.Valid := by
  have settled : (desk.settled text).buffer.Valid := Buffer.cursorAfter_valid valid text
  cases run with
  | refused _ => exact settled
  | command _ run => exact run.valid keeps valid
  | shown p slice _ _ _ =>
    obtain ⟨moved, left⟩ := showRange_buffer p.range slice (desk.settled text)
    rw [left]
    cases moved with
    | none => exact settled
    | some i => exact Buffer.moveTo_valid _ settled i
  | tooDeep _ _ => exact settled
  | nested p slice outcome _ _ _ _ =>
    obtain ⟨result, left⟩ := outcome
    cases result with
    | error e => exact settled
    | ok flow => exact Buffer.restore_valid _ p.range left.buffer

theorem Buffer.restore_firstNumber (b : Buffer) (range : LineRange) (slice : Buffer) :
    (b.restore range slice).firstNumber = b.firstNumber := by
  rw [restore_eq]

/-- The numbering of a document is not touched, unless a handler works on the document itself. -/
theorem Executes.firstNumber (run : Executes registry levels text desk outcome) :
    outcome.2.buffer.firstNumber = desk.buffer.firstNumber ∨
      desk.buffer.range text = .ok none ∧ ∃ c ∈ registry.commands, ∃ values,
        outcome = effect (c.handler registry.catalogue values) desk := by
  cases run with
  | refused _ => exact .inl rfl
  | command plain run =>
    cases run with
    | handled _ found _ =>
      exact .inr ⟨plain, _, Registry.mem_of_get? found, _, rfl⟩
    | unread _ => exact .inl rfl
    | unknown _ _ => exact .inl rfl
    | refused _ _ _ => exact .inl rfl
    | usage _ _ _ => exact .inl (by rw [keeps_usage])
  | shown p slice _ _ _ =>
    obtain ⟨moved, left⟩ := showRange_buffer p.range slice (desk.settled text)
    obtain ⟨cursor, same⟩ := (desk.settled text).buffer.exists_moveTo moved
    exact .inl (by rw [left, same]; rfl)
  | tooDeep _ _ => exact .inl rfl
  | nested p slice outcome _ _ _ _ =>
    obtain ⟨result, left⟩ := outcome
    cases result with
    | error e => exact .inl rfl
    | ok flow => exact .inl (Buffer.restore_firstNumber _ p.range left.buffer)

namespace Action

def FailsOnly (reasons : CommandError → Prop) (x : Action α) : Prop :=
  ∀ desk e, (effect x desk).1 = .error e → reasons e

variable {reasons : CommandError → Prop}

theorem Prints.failsOnly {x : Action α} (prints : Prints x a) (full : reasons (.output .full)) :
    FailsOnly reasons x := by
  intro desk e failed
  obtain ⟨text, shown⟩ := prints.exists_shown desk
  rw [shown, Desk.shown] at failed
  dsimp only at failed
  split at failed
  · contradiction
  · cases failed
    exact full

theorem failsOnly_showRange (full : reasons (.output .full)) (range : LineRange) (slice : Buffer) :
    FailsOnly reasons (showRange 0 range slice) := by
  intro desk e failed
  rw [effect_showRange] at failed
  cases step : effect Commands.printLines { desk with buffer := slice } with
  | mk result shown =>
    rw [step] at failed
    cases result with
    | ok _ => contradiction
    | error e =>
      cases failed
      exact Commands.prints_printLines.failsOnly full _ e (congrArg Prod.fst step)

end Action

/-- A text without a command in it cannot be cut into words, or has none. -/
theorem readCommand_error (unread : readCommand text = .error e) :
    e = .noCommand ∨ ∃ cause, e = .words cause := by
  unfold readCommand at unread
  split at unread
  · cases unread
    exact .inr ⟨_, rfl⟩
  · split at unread
    · cases unread
      exact .inl rfl
    · contradiction

/-- Only a handler can fail for bounds: none of the cutting out and putting back does. -/
theorem Executes.bounds (run : Executes registry levels text desk outcome)
    (failed : outcome.1 = .error (.bounds start stop count)) :
    ∃ c ∈ registry.commands, ∃ values here,
      (effect (c.handler registry.catalogue values) here).1 = .error (.bounds start stop count) := by
  let other (e : CommandError) : Prop := e ≠ .bounds start stop count
  have full : other (.output .full) := nofun
  induction run with
  | refused _ => cases failed
  | command _ run =>
    cases run with
    | handled _ found _ => exact ⟨_, Registry.mem_of_get? found, _, _, failed⟩
    | unread unread =>
      cases failed
      rcases readCommand_error unread with same | ⟨cause, same⟩ <;> cases same
    | unknown _ _ => cases failed
    | refused _ _ _ => cases failed
    | usage _ _ _ =>
      exact ((prints_usage _).failsOnly full _ _ failed rfl).elim
  | shown p slice _ _ _ =>
    exact (Action.failsOnly_showRange full p.range slice _ _ failed rfl).elim
  | tooDeep _ _ => cases failed
  | nested p slice outcome _ _ _ _ ih =>
    obtain ⟨result, left⟩ := outcome
    cases result with
    | error e => exact ih failed
    | ok flow => cases failed

/-- Whatever a text says and whatever the commands do, lines are cut out and put back only between
bounds that the document has at that moment, so that only a handler could fail for bounds. No slice is
numbered beyond the greatest number if the numbers suffice for the document. Whether the text fails or not
the document is valid again, and only a handler that works on the document itself can have changed its
numbering. -/
theorem execute_within_bounds (registry : Registry) (text : String) (desk : Desk)
    (keeps : ∀ c ∈ registry.commands, c.KeepsValid) (valid : desk.buffer.Valid) :
    (∀ b range, Touches registry (maxDepth - 1) text.toList desk b range →
      range.start ≤ range.stop ∧ range.stop ≤ b.count ∧
        (desk.buffer.firstNumber.toNat + desk.buffer.count < UInt64.size → ¬ b.Overflows range)) ∧
    (∀ start stop count,
      (effect (execute registry text) desk).1 = .error (.bounds start stop count) →
      ∃ c ∈ registry.commands, ∃ values here,
        (effect (c.handler registry.catalogue values) here).1 =
          .error (.bounds start stop count)) ∧
    (effect (execute registry text) desk).2.buffer.Valid ∧
    ((effect (execute registry text) desk).2.buffer.firstNumber = desk.buffer.firstNumber ∨
      desk.buffer.range text.toList = .ok none ∧ ∃ c ∈ registry.commands, ∃ values,
        effect (execute registry text) desk = effect (c.handler registry.catalogue values) desk) := by
  have run := executes_executeAt registry (maxDepth - 1) text.toList desk valid
  refine ⟨fun b range touches => ?_, ?_, run.valid keeps valid, run.firstNumber⟩
  · obtain ⟨ordered, bounded⟩ := touches.within valid
    exact ⟨ordered, bounded, touches.not_overflows valid⟩
  · intro start stop count failed
    exact run.bounds failed

theorem execute_within_bounds_emptied :
    let wipe : Command :=
      ⟨⟨"x", "wipe", "Empties the document."⟩, ⟨"x", "", none, [], []⟩,
        fun _ _ => do
          .edit Buffer.clear
          return .proceed⟩
    let desk : Desk := ⟨.ofLines ["a", "b", "c"], ⟨[], []⟩, .unlimited⟩
    let slice : Buffer := ⟨["b", "c"], some 1, 2, none, .lf⟩
    (∀ c ∈ [wipe], c.KeepsValid) ∧ desk.buffer.Valid ∧
      Touches ⟨[wipe], 6⟩ (maxDepth - 1) "2,$1,x".toList desk slice ⟨0, 2⟩ ∧
      2 ≤ slice.count ∧ ¬ slice.Overflows ⟨0, 2⟩ ∧
      (effect (execute ⟨[wipe], 6⟩ "2,$1,x") desk).2.buffer = ⟨["a"], some 0, 1, none, .lf⟩ ∧
      (effect (execute ⟨[wipe], 6⟩ "2,$1,x") desk).2.buffer.Valid := by
  intro wipe desk slice
  have keeps : ∀ c ∈ [wipe], c.KeepsValid := by
    intro c member
    obtain rfl := List.mem_singleton.mp member
    intro catalogue values desk valid
    exact rfl
  have valid : desk.buffer.Valid := by decide
  have outer : desk.buffer.range "2,$1,x".toList =
      .ok (some ⟨['1', ',', 'x'], ⟨1, 3⟩, none⟩) := by decide +kernel
  have inner : slice.range ['1', ',', 'x'] = .ok (some ⟨['x'], ⟨0, 2⟩, none⟩) := by
    decide +kernel
  have behind : Touches ⟨[wipe], 6⟩ 62 ['1', ',', 'x'] { desk with buffer := slice } slice ⟨0, 2⟩ :=
    .cutOut (p := ⟨['x'], ⟨0, 2⟩, none⟩) inner
  have touches : Touches ⟨[wipe], 6⟩ (maxDepth - 1) "2,$1,x".toList desk slice ⟨0, 2⟩ :=
    .inside outer (by decide +kernel) (by decide +kernel) behind
  obtain ⟨within, -, still, -⟩ := execute_within_bounds ⟨[wipe], 6⟩ "2,$1,x" desk keeps valid
  obtain ⟨-, bounded, numbered⟩ := within slice ⟨0, 2⟩ touches
  exact ⟨keeps, valid, touches, bounded, numbered (by decide), by decide +kernel, still⟩

end LineEditor
