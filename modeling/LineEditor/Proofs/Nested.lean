import LineEditor.Proofs.Execute
import LineEditor.Proofs.Followed

/-! Ranges behind ranges. Each range of a text is read in the lines that the ranges before it have cut
out, so together they name lines of the document, and the text does what its last command does behind
that one range. -/
namespace LineEditor

/-- The lines of the document that ranges name if each is read in the lines of the one before it. -/
def LineRange.composed (ranges : List LineRange) : LineRange :=
  let start := ranges.foldr (·.start + ·) 0
  ⟨start, start + ranges.getLast?.elim 0 length⟩

theorem Text.not_allBlank_of_suffix (suffix : command <:+ text) (nonblank : allBlank command = false) :
    allBlank text = false := by
  obtain ⟨front, rfl⟩ := suffix
  simp only [allBlank, List.all_append, Bool.and_eq_false_iff] at nonblank ⊢
  exact .inr nonblank

/-- White space is no part of a range. -/
theorem RangeForm.foreign_of_blank (blank : Text.isBlank c = true) : Foreign (c :: text) := by
  have visible : signs.all (!Text.isBlank ·) = true := rfl
  have digit : ¬ c.isDigit := by
    simp only [Text.isBlank, Char.isDigit, Bool.or_eq_true, Bool.and_eq_true, decide_eq_true_eq,
      beq_iff_eq, UInt32.le_iff_toNat_le, ge_iff_le, Char.toNat] at blank ⊢
    have zero : '0'.val.toNat = 0x30 := rfl
    have nine : '9'.val.toNat = 0x39 := rfl
    omega
  refine foreign_cons digit (fun sign => ?_) text
  have here := List.all_eq_true.mp visible c sign
  rw [blank] at here
  cases here

theorem RangeForm.foreign_of_allBlank (blank : Text.allBlank text = true) : Foreign text := by
  cases text with
  | nil => nofun
  | cons c text =>
    rw [Text.allBlank_cons, Bool.and_eq_true] at blank
    exact foreign_of_blank blank.1

/-- A text with a range at its head is not blank. -/
theorem Buffer.nonblank_of_range {b : Buffer} (parsed : b.range text = .ok (some p)) :
    Text.allBlank text = false := by
  cases blank : Text.allBlank text with
  | false => rfl
  | true =>
    have absent := RangeForm.reads_of_foreign (RangeForm.foreign_of_allBlank blank)
    rw [b.range_eq_none_iff.mpr absent] at parsed
    cases parsed

/-- A text consists of ranges with a command behind them, and what the ranges leave of the document
for the command. -/
inductive Nested : Buffer → List Char → List ParsedRange → Buffer → List Char → Prop where
  | command : Nested b command [] b command
  | range {b slice inner : Buffer} : b.range text = .ok (some p) →
      b.slice? p.range.start p.range.stop = some slice →
      Nested slice p.rest ranges inner command → Nested b text (p :: ranges) inner command

namespace LineRange

theorem composed_singleton (range : LineRange) (ordered : range.start ≤ range.stop) :
    composed [range] = range := by
  have stop : range.start + (range.stop - range.start) = range.stop := by omega
  simp [composed, length, stop]

theorem composed_cons (outer next : LineRange) (later : List LineRange) :
    composed (outer :: next :: later) =
      ⟨outer.start + (composed (next :: later)).start, outer.start + (composed (next :: later)).stop⟩ := by
  simp only [composed, List.foldr_cons, List.getLast?_cons_cons, Nat.add_assoc]

end LineRange

namespace Nested
open LineRange (composed)

variable {b inner : Buffer} {text command : List Char} {ranges : List ParsedRange}

theorem first (nested : Nested b text (p :: later) inner command) :
    ∃ slice, b.range text = .ok (some p) ∧ b.slice? p.range.start p.range.stop = some slice ∧
      Nested slice p.rest later inner command := by
  cases nested with
  | range parsed cut nested => exact ⟨_, parsed, cut, nested⟩

/-- All the ranges together cut out what is left for the command. -/
theorem slice (nested : Nested b text (p :: later) inner command) :
    b.slice? (composed ((p :: later).map (·.range))).start
      (composed ((p :: later).map (·.range))).stop = some inner := by
  induction later generalizing b text p with
  | nil =>
    obtain ⟨slice, -, cut, nested⟩ := nested.first
    cases nested
    have ordered := (Buffer.slice?_eq_some_iff.mp cut).1
    simpa [LineRange.composed_singleton p.range ordered] using cut
  | cons next later ih =>
    obtain ⟨slice, -, cut, nested⟩ := nested.first
    have again := ih nested
    simp only [List.map_cons, LineRange.composed_cons] at again ⊢
    exact Buffer.slice?_slice cut again

theorem within (nested : Nested b text (p :: later) inner command) (valid : b.Valid) :
    (composed ((p :: later).map (·.range))).Within b.count := by
  induction later generalizing b text p with
  | nil =>
    obtain ⟨slice, parsed, -, -⟩ := nested.first
    have within := b.range_within valid parsed
    simpa [LineRange.composed_singleton p.range within.ordered] using within
  | cons next later ih =>
    obtain ⟨slice, parsed, cut, nested⟩ := nested.first
    obtain ⟨outerOrdered, outerBounded, outerNonempty⟩ := b.range_within valid parsed
    have again := ih nested (Buffer.slice_valid cut)
    rw [Buffer.slice_count cut] at again
    obtain ⟨ordered, bounded, nonempty⟩ := again
    simp only [List.map_cons, LineRange.composed_cons] at ordered bounded nonempty ⊢
    refine ⟨?_, ?_, ?_⟩ <;> dsimp only <;> omega

theorem nonblank (nested : Nested b text ranges inner command)
    (nonblank : Text.allBlank command = false) : Text.allBlank text = false := by
  cases nested with
  | command => exact nonblank
  | range parsed _ _ => exact Buffer.nonblank_of_range parsed

end Nested

open LineEditor.Action (effect)
open LineRange (composed)

variable {registry : Registry} {desk : Desk} {text command : List Char} {inner slice : Buffer}

/-- Putting a slice back and then the slice that holds it is putting it back over its own lines. -/
theorem afterNested_afterNested (desk : Desk) (outer : LineRange) (text : List Char)
    (outcome : Except CommandError Flow × Desk)
    (cut : desk.buffer.slice? outer.start outer.stop = some slice)
    (ordered : start ≤ stop) (bounded : stop ≤ slice.count) :
    afterNested desk outer
        (afterNested (Desk.settled { desk with buffer := slice } text) ⟨start, stop⟩ outcome) =
      afterNested desk ⟨outer.start + start, outer.start + stop⟩ outcome := by
  obtain ⟨result, left⟩ := outcome
  cases result with
  | error e => rfl
  | ok flow =>
    have together := Buffer.restore_restore cut ordered bounded (slice.cursorAfter text) left.buffer
    simp only [afterNested, Desk.settled]
    rw [together]

/-- All the ranges of a text together are one range with what stands behind them. -/
theorem effect_executeAt_behind (nested : Nested desk.buffer text (p :: later) inner behind)
    (valid : desk.buffer.Valid) (nonblank : Text.allBlank behind = false) :
    effect (executeAt registry (levels + (later.length + 1)) text) desk =
      afterNested (desk.settled text) (composed ((p :: later).map (·.range)))
        (effect (executeAt registry levels behind) { desk with buffer := inner }) := by
  induction later generalizing desk text p with
  | nil =>
    obtain ⟨slice, parsed, cut, last⟩ := nested.first
    cases last
    have ordered := (desk.buffer.range_within valid parsed).ordered
    have whole : composed [p.range] = p.range := LineRange.composed_singleton p.range ordered
    rw [List.map_singleton, whole]
    exact effect_executeAt_nested parsed cut nonblank
  | cons next later ih =>
    obtain ⟨slice, parsed, cut, further⟩ := nested.first
    have sliceValid := Buffer.slice_valid cut
    have inside : effect (executeAt registry (levels + (later.length + 1)) p.rest)
        { desk with buffer := slice } = _ := ih further sliceValid
    obtain ⟨ordered, bounded, -⟩ := further.within sliceValid
    rw [List.length_cons, ← Nat.add_assoc levels,
      effect_executeAt_nested parsed cut (further.nonblank nonblank), inside]
    simp only [List.map_cons, LineRange.composed_cons]
    exact afterNested_afterNested (desk.settled text) p.range p.rest _ cut ordered bounded

theorem effect_executeAt_ranges (nested : Nested desk.buffer text (p :: later) inner command)
    (valid : desk.buffer.Valid) (_ : desk.buffer.count < 0x7FFFFFFFFFFFFFFF)
    (few : later.length < levels) (nonblank : Text.allBlank command = false)
    (plain : inner.range command = .ok none) :
    effect (executeAt registry levels text) desk =
      afterNested (desk.settled text) (composed ((p :: later).map (·.range)))
        (effect (runCommand registry 0 command) { desk with buffer := inner }) := by
  obtain ⟨free, rfl⟩ := Nat.exists_eq_add_of_le' few
  rw [effect_executeAt_behind nested valid nonblank, effect_executeAt_command plain]

/-- A command text behind a range that names its first and last line by number. -/
def flatten (b : Buffer) (range : LineRange) (command : String) : String :=
  if b.isEmpty then "," ++ command
  else toString (range.start + 1) ++ "," ++ toString range.stop ++ command

theorem reads_flatten_empty (absent : RangeForm.Reads command .absent command) :
    RangeForm.Reads (',' :: command) (.span .comma none none) command := by
  cases absent with
  | absent skipped _ =>
    exact .span .comma none none (.none fun _ _ => Address.not_reads_comma) skipped

theorem reads_flatten (absent : RangeForm.Reads command .absent command)
    (nonzero : command.head? ≠ some '0') (start stop : Nat) (positive : 0 < stop) :
    RangeForm.Reads (Nat.toDigits 10 (start + 1) ++ ',' :: (Nat.toDigits 10 stop ++ command))
      (.span .comma (some (.line (start + 1))) (some (.line stop))) command := by
  have unnumbered : Address.NoDigit command := by
    intro c head digit
    cases absent with
    | absent skipped _ =>
      cases skipped with
      | none absent =>
        obtain rfl := Address.noRun_of_noReads absent c head digit
        exact nonzero head
  have comma : Address.NoDigit (',' :: (Nat.toDigits 10 stop ++ command)) := by
    intro c head
    cases head
    decide
  exact .span .comma _ _ (.some (Address.reads_toDigits (start + 1) (Nat.succ_pos start) comma))
    (.some (Address.reads_toDigits stop positive unnumbered))

/-- The numbers are read back as the range that they were written for. -/
theorem range_flatten (b : Buffer) (valid : b.Valid) (bound : b.count < 0x7FFFFFFFFFFFFFFF)
    (within : range.Within b.count) (command : String)
    (absent : RangeForm.Reads command.toList .absent command.toList)
    (nonzero : command.toList.head? ≠ some '0') :
    b.range (flatten b range command).toList = .ok (some ⟨command.toList, range, none⟩) := by
  obtain ⟨ordered, bounded, nonempty⟩ := within
  rcases Nat.eq_zero_or_pos b.count with empty | filled
  · have blank : b.isEmpty = true := List.isEmpty_iff_length_eq_zero.mpr empty
    have text : (flatten b range command).toList = ',' :: command.toList := by
      simp [flatten, blank]
    obtain ⟨start, stop⟩ := range
    obtain rfl : stop = 0 := by simpa [empty] using bounded
    obtain rfl : start = 0 := by simpa using ordered
    rw [text, b.range_of_reads valid bound (reads_flatten_empty absent), empty]
    rfl
  · have blank : b.isEmpty = false := by
      cases lines : b.lines with
      | nil => simp [Buffer.count, lines] at filled
      | cons _ _ => simp [Buffer.isEmpty, lines]
    have text : (flatten b range command).toList =
        Nat.toDigits 10 (range.start + 1) ++ ',' :: (Nat.toDigits 10 range.stop ++ command.toList) := by
      simp [flatten, blank]
    obtain ⟨start, stop⟩ := range
    have inside : start < stop := nonempty filled
    obtain ⟨last, rfl⟩ := Nat.exists_eq_add_one.mpr (Nat.zero_lt_of_lt inside)
    have bounded : last < b.count := bounded
    have ordered : start ≤ last := Nat.le_of_lt_succ inside
    have reads := reads_flatten absent nonzero start (last + 1) (Nat.succ_pos last)
    have first := Address.Form.locate_line b.cursor .first (Nat.lt_of_le_of_lt ordered bounded)
    have final := Address.Form.locate_line b.cursor .last bounded
    rw [text, b.range_of_reads valid bound reads]
    simp only [RangeForm.meaning, RangeForm.start, RangeForm.stop, RangeOperator.cursor,
      RangeOperator.moved, first, final, Except.bind, if_neg (Nat.not_lt.mpr ordered), Except.map]

theorem effect_execute_flatten (registry : Registry) (desk : Desk) (command : String)
    (valid : desk.buffer.Valid) (bound : desk.buffer.count < 0x7FFFFFFFFFFFFFFF)
    (within : range.Within desk.buffer.count)
    (cut : desk.buffer.slice? range.start range.stop = some inner)
    (nonblank : Text.allBlank command.toList = false)
    (plain : inner.range command.toList = .ok none) (nonzero : command.toList.head? ≠ some '0') :
    effect (execute registry (flatten desk.buffer range command)) desk =
      afterNested desk range
        (effect (runCommand registry 0 command.toList) { desk with buffer := inner }) := by
  have innerBound := Nat.lt_of_le_of_lt (Buffer.slice_count_le cut) bound
  have absent := inner.reads_absent (Buffer.slice_valid cut) innerBound plain
  have flat := range_flatten desk.buffer valid bound within command absent nonzero
  have still : desk.settled (flatten desk.buffer range command).toList = desk := by
    rw [Desk.settled, ← desk.buffer.moveTo_moved valid flat]
    rfl
  have levels : maxDepth - 1 = 62 + 1 := rfl
  rw [execute, levels, effect_executeAt_nested flat cut nonblank, still, effect_executeAt_command plain]

/-- Ranges behind ranges do what one range does that names the same lines of the document by number.
Only a `;` in the first of them moves the current line of the document. -/
theorem execute_nested (registry : Registry) (desk : Desk) (text command : String)
    (first : ParsedRange) (later : List ParsedRange) (inner : Buffer) (valid : desk.buffer.Valid)
    (bound : desk.buffer.count < 0x7FFFFFFFFFFFFFFF)
    (nested : Nested desk.buffer text.toList (first :: later) inner command.toList)
    (few : later.length < 63) (nonblank : Text.allBlank command.toList = false)
    (plain : inner.range command.toList = .ok none) (nonzero : command.toList.head? ≠ some '0') :
    effect (execute registry text) desk =
      effect (execute registry
          (flatten desk.buffer (composed ((first :: later).map (·.range))) command))
        { desk with buffer := first.moved.elim desk.buffer desk.buffer.moveTo } := by
  obtain ⟨slice, parsed, -, -⟩ := nested.first
  have moved := desk.buffer.moveTo_moved valid parsed
  have movedValid : (desk.settled text.toList).buffer.Valid := by
    rw [Desk.settled, ← moved]
    cases first.moved with
    | none => exact valid
    | some i => exact desk.buffer.moveTo_valid valid i
  have flat := effect_execute_flatten registry (desk.settled text.toList) command movedValid bound
    (nested.within valid) nested.slice nonblank plain nonzero
  have levels : later.length < maxDepth - 1 := few
  rw [moved, execute, effect_executeAt_ranges nested valid bound levels nonblank plain]
  exact flat.symm

theorem execute_nested_two_moves :
    let desk : Desk := ⟨.ofLines ["a", "b", "c", "d", "e"], ⟨[], []⟩, .unlimited⟩
    let outer : ParsedRange := ⟨['1', ';', '+', '1', 'd'], ⟨1, 5⟩, some 1⟩
    let next : ParsedRange := ⟨['d'], ⟨0, 2⟩, some 0⟩
    Nested desk.buffer "2;$1;+1d".toList [outer, next]
        ⟨["b", "c"], some 1, 2, none, .lf⟩ "d".toList ∧
      effect (execute .builtin "2;$1;+1d") desk =
        effect (execute .builtin "2,3d") { desk with buffer := desk.buffer.moveTo 1 } := by
  intro desk outer next
  have behind : Nested ⟨["b", "c", "d", "e"], some 3, 2, none, .lf⟩ outer.rest [next]
      ⟨["b", "c"], some 1, 2, none, .lf⟩ ['d'] :=
    .range (by decide +kernel) (by decide +kernel) .command
  have nested : Nested desk.buffer "2;$1;+1d".toList [outer, next]
      ⟨["b", "c"], some 1, 2, none, .lf⟩ "d".toList :=
    .range (by decide +kernel) (by decide +kernel) behind
  have flattened := execute_nested .builtin desk "2;$1;+1d" "d" outer [next] _ (by decide) (by decide)
    nested (by decide) (by decide +kernel) (by decide +kernel) (by decide +kernel)
  have flat : flatten desk.buffer (composed ([outer, next].map (·.range))) "d" = "2,3d" := by
    decide +kernel
  rw [flat] at flattened
  exact ⟨nested, flattened⟩

end LineEditor
