import LineEditor.Proofs.Action
import LineEditor.Proofs.Range

/-! Ranges with a command behind them. A text that begins with no character of a range changes nothing
in how the range in front of it is read. -/
namespace LineEditor

def RangeForm.Foreign (text : List Char) : Prop :=
  ∀ c ∈ text.head?, ¬ c.isDigit ∧ ¬ Address.Begins c ∧ c ≠ ',' ∧ c ≠ ';'

def RangeForm.signs : List Char := ['+', '-', '.', '$', ',', ';']

open RangeForm (Foreign)

theorem RangeForm.foreign_cons (number : ¬ c.isDigit) (sign : c ∉ signs) (text : List Char) :
    Foreign (c :: text) := by
  intro d head
  obtain rfl : c = d := Option.some.inj head
  simp only [signs, List.mem_cons, List.not_mem_nil, or_false, not_or] at sign
  obtain ⟨plus, minus, dot, dollar, comma, semicolon⟩ := sign
  refine ⟨number, ?_, comma, semicolon⟩
  rintro (⟨digit, -⟩ | same | same | same | same)
  · exact number digit
  · exact plus same
  · exact minus same
  · exact dot same
  · exact dollar same

def RangeForm.foreign? (text : List Char) : Bool :=
  text.head?.all fun c => !c.isDigit && !signs.contains c

theorem RangeForm.foreign_of_foreign? (foreign : foreign? text = true) : Foreign text := by
  cases text with
  | nil => nofun
  | cons c text =>
    have head : (!c.isDigit && !signs.contains c) = true := foreign
    simp only [Bool.and_eq_true, Bool.not_eq_true', List.contains_eq_mem, decide_eq_false_iff_not] at head
    exact foreign_cons (by simp [head.1]) head.2 text

/-- What holds of the heads of two texts holds of the head of both together. -/
theorem head_append {P : Char → Prop} {rest behind : List Char} (own : ∀ c ∈ rest.head?, P c)
    (other : ∀ c ∈ behind.head?, P c) : ∀ c ∈ (rest ++ behind).head?, P c := by
  cases rest with
  | nil => exact other
  | cons d rest => exact own

variable {text rest behind : List Char}

namespace Address

theorem NoDigit.append (stop : NoDigit rest) (foreign : Foreign behind) : NoDigit (rest ++ behind) :=
  head_append stop fun c head => (foreign c head).1

theorem NoRun.append (absent : NoRun rest) (foreign : Foreign behind) : NoRun (rest ++ behind) :=
  head_append absent fun c head digit => ((foreign c head).1 digit).elim

theorem ReadsOffset.append (reads : ReadsOffset text n rest) (foreign : Foreign behind) :
    ReadsOffset (text ++ behind) n (rest ++ behind) := by
  cases reads with
  | one absent => exact .one (absent.append foreign)
  | run run stop =>
    rw [List.append_assoc]
    exact .run run (stop.append foreign)

theorem Reads.append (reads : Reads text form rest) (foreign : Foreign behind) :
    Reads (text ++ behind) form (rest ++ behind) := by
  cases reads with
  | line run stop =>
    rw [List.append_assoc]
    exact .line run (stop.append foreign)
  | ahead offset => exact .ahead (offset.append foreign)
  | back offset => exact .back (offset.append foreign)
  | here => exact .here
  | final => exact .final

theorem ReadsOptional.append (reads : ReadsOptional text first rest) (foreign : Foreign behind) :
    ReadsOptional (text ++ behind) first (rest ++ behind) := by
  cases reads with
  | some reads => exact .some (reads.append foreign)
  | none absent =>
    refine .none fun form rest reads => ?_
    cases text with
    | nil =>
      cases behind with
      | nil => exact absent form rest reads
      | cons c behind => exact (foreign c rfl).2.1 (exists_reads_cons_iff.mp ⟨form, rest, reads⟩)
    | cons c text =>
      have begins : Begins c := exists_reads_cons_iff.mp ⟨form, rest, reads⟩
      obtain ⟨form, rest, reads⟩ : ∃ form rest, Reads (c :: text) form rest :=
        exists_reads_cons_iff.mpr begins
      exact absent form rest reads

end Address

namespace RangeForm

theorem NoOperator.append (plain : NoOperator rest) (foreign : Foreign behind) :
    NoOperator (rest ++ behind) :=
  head_append plain fun c head => (foreign c head).2.2

theorem Reads.append (reads : Reads text form rest) (foreign : Foreign behind) :
    Reads (text ++ behind) form (rest ++ behind) := by
  cases reads with
  | absent skipped plain => exact .absent (skipped.append foreign) (plain.append foreign)
  | line address found plain => exact .line address (found.append foreign) (plain.append foreign)
  | span operator first last found tail =>
    exact .span operator first last (found.append foreign) (tail.append foreign)

theorem reads_of_foreign (foreign : Foreign text) : Reads text .absent text :=
  (Reads.absent (.none fun _ _ => Address.not_reads_nil) nofun).append foreign

/-- A range means the same lines whatever stands behind it. -/
theorem meaning_followed (cursor : Option Nat) (count : Nat) (rest rest' : List Char)
    (form : RangeForm) :
    form.meaning cursor count rest' =
      (form.meaning cursor count rest).map (·.map fun p => { p with rest := rest' }) := by
  cases form with
  | absent => rfl
  | line address =>
    simp only [meaning]
    cases address.locate cursor count .first <;> rfl
  | span operator first last =>
    simp only [meaning]
    cases start cursor count operator first with
    | error e => rfl
    | ok line =>
      simp only [Except.bind]
      cases stop (operator.cursor cursor line) count line last <;> rfl

end RangeForm

/-- Where an address stands, the resolver leaves what stands behind it or says what is wrong with it. -/
theorem Address.rest_of_resolve (reads : Reads text form rest)
    (resolved : resolve cursor count text = .ok found) : ∃ index, found = some ⟨rest, index⟩ := by
  cases reads with
  | line run stop =>
    simp only [resolve, number?_of_run run stop, Except.ok.injEq] at resolved
    exact ⟨_, resolved.symm⟩
  | @ahead tail n rest offset =>
    have sign : number? ('+' :: tail) = none := rfl
    simp only [resolve, sign, step_of_reads offset] at resolved
    obtain ⟨here, -, done⟩ := except_bind_eq_ok_iff.mp resolved
    exact ⟨_, (Except.ok.inj done).symm⟩
  | @back tail n rest offset =>
    have sign : number? ('-' :: tail) = none := rfl
    simp only [resolve, sign, step_of_reads offset] at resolved
    obtain ⟨here, -, done⟩ := except_bind_eq_ok_iff.mp resolved
    exact ⟨_, (Except.ok.inj done).symm⟩
  | here =>
    have dot : number? ('.' :: rest) = none := rfl
    simp only [resolve, dot] at resolved
    obtain ⟨here, -, done⟩ := except_bind_eq_ok_iff.mp resolved
    exact ⟨_, (Except.ok.inj done).symm⟩
  | final =>
    have dollar : number? ('$' :: rest) = none := rfl
    simp only [resolve, dollar] at resolved
    obtain ⟨here, -, done⟩ := except_bind_eq_ok_iff.mp resolved
    exact ⟨_, (Except.ok.inj done).symm⟩

theorem Address.resolve_ne_none (reads : Reads text form rest) (cursor : Option Nat) (count : Nat) :
    resolve cursor count text ≠ .ok none := by
  intro resolved
  obtain ⟨index, found⟩ := rest_of_resolve reads resolved
  contradiction

theorem RangeReader.resolve_of_endpoint {r : RangeReader} (absent : r.endpoint which text = .ok none) :
    Address.resolve r.cursor r.count text = .ok none := by
  unfold endpoint at absent
  cases resolved : Address.resolve r.cursor r.count text with
  | error e => simp [resolved, bind, Except.bind] at absent
  | ok place =>
    cases place with
    | none => rfl
    | some found =>
      simp only [resolved, bind, Except.bind] at absent
      cases checked : Address.validate found.index r.count which <;>
        simp [checked, pure, Except.pure] at absent

/-- Behind an operator there is a range or an error. -/
theorem except_map_some_ne_none (x : Except ε α) : x.map some ≠ .ok none := by
  cases x <;> simp [Except.map]

theorem RangeReader.read_eq_none {r : RangeReader} (absent : (r.read text).1 = .ok none) :
    r.endpoint .first text = .ok none ∧ RangeForm.NoOperator text := by
  unfold read at absent
  cases found : r.endpoint .first text with
  | error e => simp [found] at absent
  | ok first =>
    simp only [found] at absent
    split at absent
    · exact (except_map_some_ne_none _ absent).elim
    · split at absent
      · contradiction
      · exact (except_map_some_ne_none _ absent).elim
    · rename_i comma semicolon
      cases first with
      | some line => simp at absent
      | none =>
        refine ⟨rfl, fun c head => ?_⟩
        obtain ⟨rest, rfl⟩ := List.head?_eq_some_iff.mp head
        constructor <;> rintro rfl
        · exact comma rest rfl
        · exact semicolon rest rfl

namespace Buffer

/-- Whether a text begins with a range at all does not depend on the document. -/
theorem range_eq_none_iff (b : Buffer) :
    b.range text = .ok none ↔ RangeForm.Reads text .absent text := by
  constructor
  · intro absent
    obtain ⟨found, plain⟩ := RangeReader.read_eq_none absent
    refine .absent (.none fun form rest reads => ?_) plain
    exact Address.resolve_ne_none reads _ _ (RangeReader.resolve_of_endpoint found)
  · intro reads
    cases reads with
    | absent skipped plain =>
      have unread := RangeReader.endpoint_of_none (RangeReader.new b.cursor b.count) .first skipped
      unfold range RangeReader.read
      simp only [unread, Option.elim]
      split
      · exact ((plain _ rfl).1 rfl).elim
      · exact ((plain _ rfl).2 rfl).elim
      · rfl

theorem range_of_foreign (b : Buffer) (valid : b.Valid) (bound : b.count < 0x7FFFFFFFFFFFFFFF)
    (foreign : Foreign text) : b.range text = .ok none :=
  b.range_of_reads valid bound (RangeForm.reads_of_foreign foreign)

theorem range_followed (b : Buffer) (valid : b.Valid) (bound : b.count < 0x7FFFFFFFFFFFFFFF)
    (parsed : b.range text = .ok (some p)) (foreign : Foreign behind) :
    b.range (text ++ behind) = .ok (some { p with rest := p.rest ++ behind }) := by
  obtain ⟨form, rest, reads⟩ := RangeForm.reads_exists text
  rw [b.range_of_reads valid bound reads] at parsed
  rw [b.range_of_reads valid bound (reads.append foreign),
    RangeForm.meaning_followed b.cursor b.count rest, parsed,
    (RangeForm.of_meaning_ok parsed).2 p rfl]
  rfl

/-- Reading a range moves the current line exactly where the range says. -/
theorem cursorAfter_of_parsed (b : Buffer) (valid : b.Valid)
    (parsed : b.range text = .ok (some p)) : b.cursorAfter text = p.moved.or b.cursor := by
  rw [(RangeReader.read_within (b.cursor_lt valid) rfl parsed).2, RangeReader.read_moved rfl,
    cursorAfter]
  cases (RangeReader.new b.cursor b.count).endpoint .first text with
  | error e => rfl
  | ok first =>
    rcases first with _ | ⟨i, _ | ⟨c, rest⟩⟩
    · dsimp only
      split <;> simp [RangeReader.new]
    · rfl
    · by_cases semicolon : c = ';' <;> simp [semicolon]

end Buffer
end LineEditor
