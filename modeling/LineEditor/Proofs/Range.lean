import Mathlib.Control.Monad.Basic
import LineEditor.Buffer
import LineEditor.Proofs.Address
import LineEditor.Range

/-! The grammar of ranges `[ADDRESS] [(',' | ';') [ADDRESS]]`, read greedily and apart from any
document, and what a range form means for a document. The range reader is exactly this grammar with
this meaning. -/
namespace LineEditor

inductive RangeOperator where
  | comma
  | semicolon
  deriving DecidableEq, Repr

def RangeOperator.sign : RangeOperator → Char
  | comma => ','
  | semicolon => ';'

def RangeOperator.cursor (old : Option Nat) (first : Nat) : RangeOperator → Option Nat
  | comma => old
  | semicolon => some first

def RangeOperator.moved (first : Nat) : RangeOperator → Option Nat
  | comma => none
  | semicolon => some first

inductive RangeForm where
  | absent
  | line (address : Address.Form)
  | span (operator : RangeOperator) (first last : Option Address.Form)
  deriving DecidableEq, Repr

namespace RangeForm
open Address (ReadsOptional)

def NoOperator (text : List Char) : Prop := ∀ c ∈ text.head?, c ≠ ',' ∧ c ≠ ';'

/-- The greedy reading of a range from the left, and what it leaves. -/
inductive Reads : List Char → RangeForm → List Char → Prop where
  | absent : ReadsOptional text none text → NoOperator text → Reads text .absent text
  | line (address : Address.Form) : ReadsOptional text (some address) rest → NoOperator rest →
      Reads text (.line address) rest
  | span (operator : RangeOperator) (first last : Option Address.Form) :
      ReadsOptional text first (operator.sign :: middle) → ReadsOptional middle last rest →
      Reads text (.span operator first last) rest

/-- The first line of a range with an operator: line 1 or the current line if it is left out. -/
def start (cursor : Option Nat) (count : Nat) :
    RangeOperator → Option Address.Form → Except AddressError Nat
  | _, some address => address.locate cursor count .first
  | .comma, none => .ok 0
  | .semicolon, none => cursor.elim (.error .noCurrentLine) .ok

/-- The end of a range with an operator: the end of the document if the last line is left out. -/
def stop (cursor : Option Nat) (count first : Nat) : Option Address.Form → Except AddressError Nat
  | none => .ok count
  | some address =>
    match address.locate cursor count .last with
    | .error e => .error e
    | .ok last => if last < first then .error (.invalidRange first last) else .ok (last + 1)

/-- What a range form means in front of `rest`. The first failure from the left counts. -/
def meaning (cursor : Option Nat) (count : Nat) (rest : List Char) :
    RangeForm → Except AddressError (Option ParsedRange)
  | absent => .ok none
  | line address =>
    (address.locate cursor count .first).map fun i => some ⟨rest, ⟨i, i + 1⟩, none⟩
  | span operator first last =>
    (start cursor count operator first).bind fun start =>
      (stop (operator.cursor cursor start) count start last).map fun stop =>
        some ⟨rest, ⟨start, stop⟩, operator.moved start⟩

theorem reads_exists (text : List Char) : ∃ form rest, Reads text form rest := by
  obtain ⟨first, behind, reads⟩ := Address.readsOptional_exists text
  by_cases operator : ∃ op : RangeOperator, ∃ middle, behind = op.sign :: middle
  · obtain ⟨op, middle, rfl⟩ := operator
    obtain ⟨last, rest, tail⟩ := Address.readsOptional_exists middle
    exact ⟨_, _, .span op first last reads tail⟩
  · have plain : NoOperator behind := by
      intro c head
      obtain ⟨middle, rfl⟩ := List.head?_eq_some_iff.mp head
      refine ⟨fun comma => operator ⟨.comma, middle, ?_⟩,
        fun semicolon => operator ⟨.semicolon, middle, ?_⟩⟩
      · rw [comma]; rfl
      · rw [semicolon]; rfl
    cases reads with
    | none absent => exact ⟨_, _, .absent (.none absent) plain⟩
    | some address => exact ⟨_, _, .line _ (.some address) plain⟩

/-- Only the absent form means no range, and a range stands in front of what is left of the text. -/
theorem of_meaning_ok {form : RangeForm} (parsed : form.meaning cursor count rest = .ok found) :
    (found = none → form = absent) ∧ ∀ p ∈ found, p.rest = rest := by
  cases form with
  | absent =>
    cases parsed
    exact ⟨fun _ => rfl, fun _ member => by contradiction⟩
  | line address =>
    rw [meaning] at parsed
    cases here : address.locate cursor count .first with
    | error e => simp [here, Except.map] at parsed
    | ok i =>
      rw [here] at parsed
      cases parsed
      simp
  | span operator first last =>
    rw [meaning] at parsed
    cases head : start cursor count operator first with
    | error e => simp [head, Except.bind] at parsed
    | ok line =>
      simp only [head, Except.bind] at parsed
      cases tail : stop (operator.cursor cursor line) count line last with
      | error e => simp [tail, Except.map] at parsed
      | ok i =>
        rw [tail] at parsed
        cases parsed
        simp

end RangeForm

/-- The lines of a range are lines of the document, and there is one unless it has none. -/
structure LineRange.Within (range : LineRange) (count : Nat) : Prop where
  ordered : range.start ≤ range.stop
  bounded : range.stop ≤ count
  nonempty : 0 < count → range.start < range.stop

namespace RangeReader
open Address (ReadsOptional)

/-- The reader of a document that 64-bit positions can hold, with its current line inside. -/
structure Sound (r : RangeReader) : Prop where
  bound : r.count < 0x7FFFFFFFFFFFFFFF
  inside : ∀ i ∈ r.cursor, i < r.count

theorem endpoint_of_none (r : RangeReader) (which : Endpoint) (reads : ReadsOptional text none rest) :
    r.endpoint which text = .ok none := by
  cases reads with
  | none absent => rw [endpoint, Address.resolve_of_noReads absent]; rfl

theorem endpoint_of_some {r : RangeReader} (sound : r.Sound) (which : Endpoint)
    (reads : ReadsOptional text (some address) rest) :
    r.endpoint which text =
      (address.locate r.cursor r.count which).map fun i => some (i, rest) := by
  cases reads with
  | some reads =>
    rw [endpoint, Address.resolve_of_reads reads r.cursor sound.bound sound.inside,
      Address.Form.locate]
    by_cases missing : address.relative ∧ r.cursor = none
    · rw [if_pos missing, if_pos missing]; rfl
    · rw [if_neg missing, if_neg missing]
      have here : address.relative → r.cursor.getD 0 < r.count := by
        intro relative
        cases known : r.cursor with
        | none => exact (missing ⟨relative, known⟩).elim
        | some i => exact sound.inside i known
      have checked := Address.validate_reported address which sound.bound here
      by_cases line : 0 ≤ address.index (r.cursor.getD 0) r.count ∧
          address.index (r.cursor.getD 0) r.count < r.count
      · rw [if_pos line] at checked ⊢
        simp only [bind, Except.bind, checked]; rfl
      · rw [if_neg line] at checked ⊢
        simp only [bind, Except.bind, checked]; rfl

theorem finish_of_reads {r : RangeReader} (sound : r.Sound) (first : Nat)
    (reads : ReadsOptional text last rest) :
    r.finish first text =
      (RangeForm.stop r.cursor r.count first last).map fun stop => ⟨rest, ⟨first, stop⟩, r.moved⟩ := by
  cases last with
  | none =>
    rw [finish, endpoint_of_none r .last reads]
    cases reads; rfl
  | some address =>
    rw [finish, endpoint_of_some sound .last reads, RangeForm.stop]
    cases address.locate r.cursor r.count .last with
    | error e => rfl
    | ok i =>
      by_cases reversed : i < first
      · simp [reversed, Except.map, bind, Except.bind, throw, throwThe, MonadExceptOf.throw]
      · simp [reversed, Except.map, bind, Except.bind, pure, Except.pure]

def pass (r : RangeReader) (first : Nat) : RangeOperator → RangeReader
  | .comma => r
  | .semicolon => r.moveTo first

theorem pass_sound {r : RangeReader} (sound : r.Sound) (operator : RangeOperator)
    (inside : operator = .semicolon → first < r.count) : (r.pass first operator).Sound := by
  cases operator with
  | comma => exact sound
  | semicolon =>
    refine ⟨sound.bound, ?_⟩
    intro i here
    cases here
    exact inside rfl

theorem span_of_reads {r : RangeReader} (sound : r.Sound) (fresh : r.moved = none)
    (operator : RangeOperator) (inside : operator = .semicolon → first < r.count)
    (reads : ReadsOptional text last rest) :
    ((r.pass first operator).finish first text).map some =
      (RangeForm.stop (operator.cursor r.cursor first) r.count first last).map fun stop =>
        some ⟨rest, ⟨first, stop⟩, operator.moved first⟩ := by
  rw [finish_of_reads (pass_sound sound operator inside) first reads]
  cases operator with
  | comma =>
    simp only [pass, RangeOperator.cursor, RangeOperator.moved, fresh]
    cases RangeForm.stop r.cursor r.count first last <;> rfl
  | semicolon =>
    simp only [pass, moveTo, RangeOperator.cursor, RangeOperator.moved]
    cases RangeForm.stop (some first) r.count first last <;> rfl

theorem read_of_reads {r : RangeReader} (sound : r.Sound) (fresh : r.moved = none)
    (reads : RangeForm.Reads text form rest) :
    (r.read text).1 = form.meaning r.cursor r.count rest := by
  cases reads with
  | absent skipped plain =>
    rw [read, endpoint_of_none r .first skipped]
    simp only [Option.elim]
    split
    · exact ((plain _ rfl).1 rfl).elim
    · exact ((plain _ rfl).2 rfl).elim
    · rfl
  | line address found plain =>
    rw [read, endpoint_of_some sound .first found, RangeForm.meaning]
    cases address.locate r.cursor r.count .first with
    | error e => rfl
    | ok i =>
      simp only [Except.map, Option.elim]
      split
      · exact ((plain _ rfl).1 rfl).elim
      · exact ((plain _ rfl).2 rfl).elim
      · rfl
  | span operator first last found tail =>
    rename_i middle
    rw [RangeForm.meaning]
    cases first with
    | none =>
      have unread := endpoint_of_none r .first found
      obtain rfl : operator.sign :: middle = text := by cases found; rfl
      cases operator with
      | comma =>
        have unmoved : RangeOperator.comma = .semicolon → 0 < r.count := by
          intro same
          contradiction
        rw [read, unread]
        exact span_of_reads sound fresh .comma unmoved tail
      | semicolon =>
        rw [read, unread, RangeForm.start]
        cases here : r.cursor with
        | none => simp only [Option.elim, RangeOperator.sign, Option.map, Option.or]; rfl
        | some first =>
          have inside := sound.inside first here
          have rest := span_of_reads sound fresh .semicolon (fun _ => inside) tail
          simp only [Option.elim, RangeOperator.sign, Option.map, Option.or]
          rw [here] at rest
          exact rest
    | some address =>
      rw [read, endpoint_of_some sound .first found, RangeForm.start]
      cases line : address.locate r.cursor r.count .first with
      | error e => rfl
      | ok i =>
        have inside := Address.Form.locate_lt line
        have rest := span_of_reads sound fresh operator (fun _ => inside) tail
        cases operator with
        | comma => exact rest
        | semicolon => exact rest

theorem endpoint_lt {r : RangeReader} (found : r.endpoint which text = .ok (some (i, rest))) :
    i < r.count := by
  unfold endpoint at found
  cases resolved : Address.resolve r.cursor r.count text with
  | error e => simp [resolved, bind, Except.bind] at found
  | ok place =>
    cases place with
    | none => simp [resolved, bind, Except.bind, pure, Except.pure] at found
    | some place =>
      simp only [resolved, bind, Except.bind, Address.validate] at found
      split at found
      · contradiction
      · rename_i valid
        split at valid
        · cases valid
          cases found
          omega
        · contradiction

theorem finish_within {r : RangeReader} (inside : first < r.count ∨ first = 0 ∧ r.count = 0)
    (finished : r.finish first text = .ok p) : p.range.Within r.count ∧ p.moved = r.moved := by
  unfold finish at finished
  cases found : r.endpoint .last text with
  | error e => simp [found, bind, Except.bind] at finished
  | ok last =>
    cases last with
    | none =>
      simp only [found, bind, Except.bind, pure, Except.pure] at finished
      cases finished
      refine ⟨⟨?_, Nat.le_refl _, ?_⟩, rfl⟩ <;> dsimp only <;> omega
    | some last =>
      have bound := endpoint_lt found
      simp only [found, bind, Except.bind] at finished
      split at finished
      · contradiction
      · cases finished
        refine ⟨⟨?_, ?_, ?_⟩, rfl⟩ <;> dsimp only <;> omega

theorem finish_of_map (parsed : Except.map some (finish r first text) = .ok (some p)) :
    r.finish first text = .ok p := by
  cases finished : r.finish first text with
  | error e => simp [finished, Except.map] at parsed
  | ok found =>
    simp only [finished, Except.map, Except.ok.injEq, Option.some.injEq] at parsed
    rw [parsed]

/-- A range that is read lies within the document, and it reports what `;` has done. -/
theorem read_within {r : RangeReader} (inside : ∀ i ∈ r.cursor, i < r.count)
    (fresh : r.moved = none) (parsed : (r.read text).1 = .ok (some p)) :
    p.range.Within r.count ∧ p.moved = (r.read text).2.moved := by
  unfold read at parsed ⊢
  cases found : r.endpoint .first text with
  | error e => simp [found] at parsed
  | ok first =>
    have bound : ∀ i ∈ first.map (·.1), i < r.count := by
      intro i member
      obtain ⟨⟨_, rest⟩, rfl, rfl⟩ := Option.map_eq_some_iff.mp member
      exact endpoint_lt found
    simp only [found] at parsed ⊢
    split at parsed
    · refine finish_within ?_ (finish_of_map parsed)
      cases first with
      | none => exact (Nat.eq_zero_or_pos r.count).symm.imp_right fun empty => ⟨rfl, empty⟩
      | some line => exact .inl (bound _ rfl)
    · cases start : (first.map (·.1)).or r.cursor with
      | none => simp [start] at parsed
      | some line =>
        simp only [start] at parsed ⊢
        have line_lt : line < r.count := by
          rcases Option.or_eq_some_iff.mp start with given | ⟨_, here⟩
          · exact bound line given
          · exact inside line here
        exact finish_within (r := r.moveTo line) (.inl line_lt) (finish_of_map parsed)
    · cases first with
      | none => simp at parsed
      | some line =>
        simp only [Option.map_some, Except.ok.injEq, Option.some.injEq] at parsed
        subst parsed
        have line_lt := bound line.1 rfl
        refine ⟨⟨?_, ?_, ?_⟩, fresh.symm⟩ <;> dsimp only <;> omega

/-- Only `;` behind a first address or in its place asks for a move, and no later failure undoes it. -/
theorem read_moved {r : RangeReader} (fresh : r.moved = none) :
    (r.read text).2.moved =
      match r.endpoint .first text with
      | .error _ => none
      | .ok first =>
        if (first.elim text (·.2)).head? = some ';' then (first.map (·.1)).or r.cursor else none := by
  unfold read
  cases r.endpoint .first text with
  | error e => exact fresh
  | ok first =>
    dsimp only
    split
    · simp_all
    · rename_i rest behind
      cases start : (first.map (·.1)).or r.cursor with
      | none => simp_all
      | some line => simp_all [moveTo]
    · rename_i comma semicolon
      simp_all [List.head?_eq_some_iff]

end RangeReader

namespace Buffer

def range (b : Buffer) (text : List Char) : Except AddressError (Option ParsedRange) :=
  ((RangeReader.new b.cursor b.count).read text).1

theorem cursor_lt (b : Buffer) (valid : b.Valid) : ∀ i ∈ b.cursor, i < b.count := by
  intro i here
  have here : b.cursor = some i := here
  have inside : i < b.lines.length := by simpa only [Valid, here] using valid
  exact inside

theorem range_of_reads (b : Buffer) (valid : b.Valid) (bound : b.count < 0x7FFFFFFFFFFFFFFF)
    (reads : RangeForm.Reads text form rest) :
    b.range text = form.meaning b.cursor b.count rest :=
  RangeReader.read_of_reads ⟨bound, b.cursor_lt valid⟩ rfl reads

theorem reads_absent (b : Buffer) (valid : b.Valid) (bound : b.count < 0x7FFFFFFFFFFFFFFF)
    (absent : b.range text = .ok none) : RangeForm.Reads text .absent text := by
  obtain ⟨form, rest, reads⟩ := RangeForm.reads_exists text
  rw [b.range_of_reads valid bound reads] at absent
  obtain rfl := (RangeForm.of_meaning_ok absent).1 rfl
  cases reads with
  | absent skipped plain => exact .absent skipped plain

theorem range_within (b : Buffer) (valid : b.Valid) (parsed : b.range text = .ok (some p)) :
    p.range.Within b.count :=
  (RangeReader.read_within (b.cursor_lt valid) rfl parsed).1

/-- The current line once a range has been read at the head of a text: an address that names a line
makes it current if `;` follows. -/
def cursorAfter (b : Buffer) (text : List Char) : Option Nat :=
  match (RangeReader.new b.cursor b.count).endpoint .first text with
  | .ok (some (i, ';' :: _)) => some i
  | _ => b.cursor

theorem cursorAfter_of_absent (b : Buffer) (absent : b.range text = .ok none) :
    b.cursorAfter text = b.cursor := by
  unfold range RangeReader.read at absent
  unfold cursorAfter
  cases found : (RangeReader.new b.cursor b.count).endpoint .first text with
  | error e => rfl
  | ok first =>
    rcases first with _ | ⟨i, _ | ⟨c, rest⟩⟩
    · rfl
    · rfl
    · by_cases semicolon : c = ';'
      · subst semicolon
        simp only [found, Option.elim, Option.map, Option.or] at absent
        cases finished : ((RangeReader.new b.cursor b.count).moveTo i).finish i rest <;>
          simp [finished, Except.map] at absent
      · simp [semicolon]

theorem moveTo_current (b : Buffer) : b.cursor.elim b b.moveTo = b := by
  cases here : b.cursor with
  | none => rfl
  | some i =>
    simp only [Option.elim, moveTo, ← here]
    split <;> rfl

/-- The move that a range asks for is carried out even if the range is refused. -/
theorem moveTo_read (b : Buffer) (text : List Char) :
    ((RangeReader.new b.cursor b.count).read text).2.moved.elim b b.moveTo =
      { b with cursor := b.cursorAfter text } := by
  rw [RangeReader.read_moved rfl, cursorAfter]
  cases found : (RangeReader.new b.cursor b.count).endpoint .first text with
  | error e => rfl
  | ok first =>
    cases first with
    | none =>
      dsimp only
      split
      · exact b.moveTo_current
      · rfl
    | some line =>
      obtain ⟨i, rest⟩ := line
      have inside : i < b.count := RangeReader.endpoint_lt found
      cases rest with
      | nil => rfl
      | cons c rest =>
        by_cases semicolon : c = ';'
        · subst semicolon
          simp [moveTo, inside]
        · simp [semicolon]

theorem moveTo_valid (b : Buffer) (valid : b.Valid) (i : Nat) : (b.moveTo i).Valid := by
  unfold moveTo
  by_cases inside : i < b.count
  · rw [if_pos inside]
    exact inside
  · rwa [if_neg inside]

theorem moveTo_moved (b : Buffer) (valid : b.Valid) (parsed : b.range text = .ok (some p)) :
    p.moved.elim b b.moveTo = { b with cursor := b.cursorAfter text } := by
  rw [(RangeReader.read_within (b.cursor_lt valid) rfl parsed).2]
  exact b.moveTo_read text

/-- Reading a range gives what the grammar says, and the grammar leaves no text without a reading. -/
theorem range_eq_iff (b : Buffer) (valid : b.Valid) (bound : b.count < 0x7FFFFFFFFFFFFFFF)
    (text : List Char) (outcome : Except AddressError (Option ParsedRange)) :
    b.range text = outcome ↔
      ∃ form rest, RangeForm.Reads text form rest ∧ form.meaning b.cursor b.count rest = outcome := by
  constructor
  · rintro rfl
    obtain ⟨form, rest, reads⟩ := RangeForm.reads_exists text
    exact ⟨form, rest, reads, (b.range_of_reads valid bound reads).symm⟩
  · rintro ⟨form, rest, reads, rfl⟩
    exact b.range_of_reads valid bound reads

theorem range_eq_iff_two_ahead :
    (ofLines ["a", "b", "c", "d"]).Valid ∧
    (ofLines ["a", "b", "c", "d"]).count < 0x7FFFFFFFFFFFFFFF ∧
    ∃ form rest, RangeForm.Reads ['2', ';', '+', '1', 'p'] form rest ∧
      form.meaning (some 3) 4 rest = .ok (some ⟨['p'], ⟨1, 3⟩, some 1⟩) :=
  ⟨by decide, by decide,
    ((ofLines ["a", "b", "c", "d"]).range_eq_iff (by decide) (by decide) ['2', ';', '+', '1', 'p'] _).mp
      (by decide +kernel)⟩

end Buffer
end LineEditor
