import LineEditor.Proofs.Builtin

/-! Documents on which one operation is done after the other. Whatever they are, there is a current line
exactly if there are lines, and each of them makes of the lines what its description says. The descriptions
are about documents with their lines taken apart, and do not count positions. -/
namespace LineEditor

inductive Operation where
  | insert (new : List String)
  | append (new : List String)
  | replaceAll (new : List String)
  | clear
  | moveTo (i : Nat)
  /-- Goes on with a slice in place of the document. -/
  | enter (start stop : Nat)
  | splice (start stop : Nat) (new : List String)

section
variable (lines : List String) (cursor old : Option Nat)

/-- The current line is the last one, or none if there are no lines. -/
def IsLast : Prop := ∀ i, cursor = some i ↔ i + 1 = lines.length

/-- The current line is the old one if that still names a line, and else the last one. -/
inductive Repaired : Prop where
  | kept : old = some i → i < lines.length → cursor = some i → Repaired
  | moved : (∀ i ∈ old, lines.length ≤ i) → IsLast lines cursor → Repaired

end

namespace Operation

/-- The document behind an operation. There is none if it asks for lines that the document does not have. -/
def run? (b : Buffer) : Operation → Option Buffer
  | .insert new => some (b.insert new)
  | .append new => some (b.append new)
  | .replaceAll new => some (b.replaceAll new)
  | .clear => some b.clear
  | .moveTo i => some (b.moveTo i)
  | .enter start stop => b.slice? start stop
  | .splice start stop new => b.splice? start stop new

def OutOfBounds (b : Buffer) : Operation → Prop
  | .enter start stop | .splice start stop _ => stop < start ∨ b.lines.length < stop
  | _ => False

/-- What an operation makes of a document. Numbering, file and terminator stay, but a slice is numbered on. -/
inductive Makes (b : Buffer) : Operation → Buffer → Prop where
  | insertNothing : Makes b (.insert []) b
  | insertFirst : new ≠ [] → b.lines = [] → IsLast new cursor →
      Makes b (.insert new) { b with lines := new, cursor }
  | insert : new ≠ [] → b.lines = front ++ line :: back → b.cursor = some front.length →
      Makes b (.insert new) { b with
        lines := front ++ line :: (new ++ back), cursor := some (front.length + new.length) }
  | appendNothing : Makes b (.append []) b
  | append : new ≠ [] → IsLast (b.lines ++ new) cursor →
      Makes b (.append new) { b with lines := b.lines ++ new, cursor }
  | replaceAll : IsLast new cursor → Makes b (.replaceAll new) { b with lines := new, cursor }
  | clear : Makes b .clear { b with lines := [], cursor := none }
  | moveTo : i < b.lines.length → Makes b (.moveTo i) { b with cursor := some i }
  | stay : b.lines.length ≤ i → Makes b (.moveTo i) b
  | enter : b.lines = front ++ middle ++ back → IsLast middle cursor →
      Makes b (.enter front.length (front ++ middle).length)
        { b with lines := middle, cursor, firstNumber := b.numberAt front.length }
  | splice : b.lines = front ++ middle ++ back → Repaired (front ++ new ++ back) cursor b.cursor →
      Makes b (.splice front.length (front ++ middle).length new)
        { b with lines := front ++ new ++ back, cursor }

end Operation

/-! ### Positions and parts -/

namespace Buffer

variable {b : Buffer} {lines front middle back new : List String} {cursor old : Option Nat}

theorem isLast_iff : IsLast lines cursor ↔ cursor = lastOf lines := by
  have last (i : Nat) : lastOf lines = some i ↔ i + 1 = lines.length := by
    cases lines with
    | nil => simp [lastOf]
    | cons line lines => simp [lastOf, eq_comm]
  unfold IsLast
  simp only [← last]
  exact ⟨Option.ext, fun same i => by rw [same]⟩

theorem repaired_iff : Repaired lines cursor old ↔ cursor = keepCursor old lines := by
  have lost (out : ∀ i ∈ old, lines.length ≤ i) : keepCursor old lines = lastOf lines := by
    cases old with
    | none => rfl
    | some i => exact if_neg (Nat.not_lt.mpr (out i rfl))
  have same (i : Nat) (inside : i < lines.length) : keepCursor (some i) lines = some i := if_pos inside
  constructor
  · intro repaired
    cases repaired with
    | kept here inside there => rw [here, there, same _ inside]
    | moved out last => rw [lost out, isLast_iff.mp last]
  · intro chosen
    by_cases kept : ∃ i, old = some i ∧ i < lines.length
    · obtain ⟨i, here, inside⟩ := kept
      rw [here, same i inside] at chosen
      exact .kept here inside chosen
    · have out : ∀ i ∈ old, lines.length ≤ i := fun i here =>
        Nat.not_lt.mp fun inside => kept ⟨i, here, inside⟩
      exact .moved out (isLast_iff.mpr (chosen.trans (lost out)))

/-- Lines fall into three parts at two positions in order. -/
theorem exists_parts (ordered : start ≤ stop) (bounded : stop ≤ lines.length) :
    ∃ front middle back, lines = front ++ middle ++ back ∧ front.length = start ∧
      (front ++ middle).length = stop := by
  refine ⟨lines.take start, (lines.take stop).drop start, lines.drop stop, ?_, ?_, ?_⟩
  · rw [take_append_slice lines ordered, List.take_append_drop]
  · rw [List.length_take, Nat.min_eq_left (Nat.le_trans ordered bounded)]
  · rw [take_append_slice lines ordered, List.length_take, Nat.min_eq_left bounded]

theorem exists_line (inside : i < lines.length) :
    ∃ front line back, lines = front ++ line :: back ∧ front.length = i := by
  refine ⟨lines.take i, lines[i], lines.drop (i + 1), ?_, ?_⟩
  · rw [← List.drop_eq_getElem_cons inside, List.take_append_drop]
  · rw [List.length_take, Nat.min_eq_left (Nat.le_of_lt inside)]

theorem insert_parts (added : new ≠ []) (parts : b.lines = front ++ line :: back)
    (here : b.cursor = some front.length) :
    b.insert new = { b with
      lines := front ++ line :: (new ++ back), cursor := some (front.length + new.length) } := by
  have split : b.lines = (front ++ [line]) ++ back := by simp [parts]
  have length : (front ++ [line]).length = front.length + 1 := by simp
  rw [insert, if_neg (by simpa using added), here]
  simp only [split, List.take_left' length, List.drop_left' length]
  simp

theorem slice?_parts (parts : b.lines = front ++ middle ++ back) :
    b.slice? front.length (front ++ middle).length = some
      { b with lines := middle, cursor := lastOf middle, firstNumber := b.numberAt front.length } := by
  refine slice?_eq_some_iff.mpr ⟨?_, ?_, ?_⟩
  · simp
  · simp [count, parts]
  · rw [parts, List.take_left, List.drop_left]

theorem splice?_parts (parts : b.lines = front ++ middle ++ back) :
    b.splice? front.length (front ++ middle).length new = some
      { b with lines := front ++ new ++ back, cursor := keepCursor b.cursor (front ++ new ++ back) } := by
  have first : b.lines.take front.length = front := by rw [parts, List.append_assoc, List.take_left]
  have last : b.lines.drop (front ++ middle).length = back := by rw [parts, List.drop_left]
  have inside : front.length ≤ (front ++ middle).length ∧ (front ++ middle).length ≤ b.count := by
    simp [count, parts]
  simp only [splice?, if_pos inside, first, last]

end Buffer

namespace Operation
open Buffer (isLast_iff repaired_iff)

variable {b c : Buffer} {op : Operation}

/-- An operation is refused exactly if it is out of bounds. -/
theorem run?_eq_none_iff : run? b op = none ↔ op.OutOfBounds b := by
  have outside (start stop : Nat) :
      ¬ (start ≤ stop ∧ stop ≤ b.count) ↔ stop < start ∨ b.lines.length < stop := by
    rw [Buffer.count]
    omega
  cases op with
  | enter start stop =>
    simp only [run?, Buffer.slice?, OutOfBounds, ← outside, ite_eq_right_iff, reduceCtorEq, imp_false]
  | splice start stop new =>
    simp only [run?, Buffer.splice?, OutOfBounds, ← outside, ite_eq_right_iff, reduceCtorEq, imp_false]
  | _ => simp [run?, OutOfBounds]

theorem makes_insert (valid : b.Valid) (new : List String) : Makes b (.insert new) (b.insert new) := by
  by_cases added : new = []
  · subst added
    exact .insertNothing
  unfold Buffer.Valid at valid
  split at valid
  · rename_i unset
    rw [Buffer.insert_of_empty valid unset]
    exact .insertFirst added valid (isLast_iff.mpr rfl)
  · rename_i i here
    obtain ⟨front, line, back, parts, rfl⟩ := Buffer.exists_line valid
    rw [Buffer.insert_parts added parts here]
    exact .insert added parts here

theorem makes_append (b : Buffer) (new : List String) : Makes b (.append new) (b.append new) := by
  unfold Buffer.append
  split
  · rename_i nothing
    rw [List.isEmpty_iff.mp nothing]
    exact .appendNothing
  · rename_i added
    exact .append (by simpa using added) (isLast_iff.mpr rfl)

theorem makes_moveTo (b : Buffer) (i : Nat) : Makes b (.moveTo i) (b.moveTo i) := by
  unfold Buffer.moveTo
  split
  · rename_i inside
    exact .moveTo inside
  · rename_i out
    exact .stay (Nat.not_lt.mp out)

theorem makes_of_run? (valid : b.Valid) (done : run? b op = some c) : Makes b op c := by
  have within : ¬ op.OutOfBounds b := by
    rw [← run?_eq_none_iff, done]
    nofun
  cases op with
  | insert new =>
    cases done
    exact makes_insert valid new
  | append new =>
    cases done
    exact makes_append b new
  | replaceAll new =>
    cases done
    exact .replaceAll (isLast_iff.mpr rfl)
  | clear =>
    cases done
    exact .clear
  | moveTo i =>
    cases done
    exact makes_moveTo b i
  | enter start stop =>
    rw [OutOfBounds, not_or, Nat.not_lt, Nat.not_lt] at within
    obtain ⟨front, middle, back, parts, rfl, rfl⟩ := Buffer.exists_parts within.1 within.2
    rw [run?, Buffer.slice?_parts parts] at done
    cases done
    exact .enter parts (isLast_iff.mpr rfl)
  | splice start stop new =>
    rw [OutOfBounds, not_or, Nat.not_lt, Nat.not_lt] at within
    obtain ⟨front, middle, back, parts, rfl, rfl⟩ := Buffer.exists_parts within.1 within.2
    rw [run?, Buffer.splice?_parts parts] at done
    cases done
    exact .splice parts (repaired_iff.mpr rfl)

theorem run?_of_makes (valid : b.Valid) (makes : Makes b op c) : run? b op = some c := by
  cases makes with
  | insertNothing => rfl
  | insertFirst added empty last =>
    have unset : b.cursor = none := by
      unfold Buffer.Valid at valid
      split at valid
      · assumption
      · simp [empty] at valid
    rw [run?, Buffer.insert_of_empty empty unset, isLast_iff.mp last]
  | insert added parts here => rw [run?, Buffer.insert_parts added parts here]
  | appendNothing => rfl
  | append added last => rw [run?, Buffer.append, if_neg (by simpa using added), isLast_iff.mp last]
  | replaceAll last => rw [run?, Buffer.replaceAll, isLast_iff.mp last]
  | clear => rfl
  | moveTo inside => exact congrArg some (if_pos inside)
  | stay out => exact congrArg some (if_neg (Nat.not_lt.mpr out))
  | enter parts last => rw [run?, Buffer.slice?_parts parts, isLast_iff.mp last]
  | splice parts repaired => rw [run?, Buffer.splice?_parts parts, repaired_iff.mp repaired]

/-- An operation comes to exactly what it makes of a valid document. -/
theorem run?_eq_some_iff (valid : b.Valid) : run? b op = some c ↔ Makes b op c :=
  ⟨makes_of_run? valid, run?_of_makes valid⟩

theorem run?_valid (valid : b.Valid) (done : run? b op = some c) : c.Valid := by
  cases op with
  | insert new =>
    cases done
    exact Buffer.insert_valid valid new
  | append new =>
    cases done
    exact Buffer.append_valid valid new
  | replaceAll new =>
    cases done
    exact b.replaceAll_valid new
  | clear =>
    cases done
    exact b.replaceAll_valid []
  | moveTo i =>
    cases done
    exact b.moveTo_valid valid i
  | enter start stop => exact Buffer.slice_valid done
  | splice start stop new =>
    rw [run?, Buffer.splice?] at done
    split at done
    · cases done
      exact Buffer.valid_of_kept b.cursor rfl
    · contradiction

end Operation

/-! ### Histories -/

namespace Buffer

variable {b start : Buffer} {history : List Operation}

inductive Fresh : Buffer → Prop where
  | empty : Fresh empty
  | ofLines (lines : List String) : Fresh (ofLines lines)
  | ofText (text : String) : Fresh (ofText text)

/-- The document behind some operations, of which those that are out of bounds change nothing. -/
def after (b : Buffer) (history : List Operation) : Buffer :=
  history.foldl (fun b op => (op.run? b).getD b) b

theorem after_concat (b : Buffer) (history : List Operation) (op : Operation) :
    b.after (history ++ [op]) = (op.run? (b.after history)).getD (b.after history) := by
  rw [after, List.foldl_append]
  rfl

theorem Fresh.valid (fresh : Fresh b) : b.Valid := by
  cases fresh with
  | empty => rfl
  | ofLines lines => exact lastOf_valid Buffer.empty lines
  | ofText text => exact lastOf_valid (Buffer.ofText text) (Text.Loaded.ofText text).lines

theorem after_valid (valid : b.Valid) (history : List Operation) : (b.after history).Valid := by
  induction history generalizing b with
  | nil => exact valid
  | cons op history ih =>
    refine ih (b := (op.run? b).getD b) ?_
    cases done : op.run? b with
    | none => exact valid
    | some c => exact Operation.run?_valid valid done

theorem valid_iff :
    b.Valid ↔ (b.cursor = none ↔ b.lines = []) ∧ ∀ i ∈ b.cursor, i < b.lines.length := by
  unfold Valid
  cases b.cursor with
  | none => simp
  | some i =>
    have nonempty (inside : i < b.lines.length) : b.lines ≠ [] := by
      intro empty
      simp [empty] at inside
    simpa using nonempty

/-- However a document has been changed since it was new, it has a current line exactly if it has lines, and
this is one of them. Every operation that is done next makes of it the one thing that its description says,
or else it is out of bounds, and the document stays as it is. -/
theorem after_fresh (fresh : Fresh start) (reached : start.after history = b) :
    (b.cursor = none ↔ b.lines = []) ∧ (∀ i ∈ b.cursor, i < b.lines.length) ∧
    ∀ op : Operation,
      (op.OutOfBounds b ∧ op.run? b = none ∧ start.after (history ++ [op]) = b) ∨
      (¬ op.OutOfBounds b ∧ ∃ c, (∀ d, op.Makes b d ↔ d = c) ∧ op.run? b = some c ∧
        start.after (history ++ [op]) = c) := by
  have valid : b.Valid := reached ▸ after_valid fresh.valid history
  obtain ⟨unset, inside⟩ := valid_iff.mp valid
  refine ⟨unset, inside, fun op => ?_⟩
  have next := start.after_concat history op
  rw [reached] at next
  cases done : op.run? b with
  | none =>
    rw [done] at next
    exact .inl ⟨Operation.run?_eq_none_iff.mp done, rfl, next⟩
  | some c =>
    rw [done] at next
    refine .inr ⟨?_, c, fun d => ?_, rfl, next⟩
    · rw [← Operation.run?_eq_none_iff, done]
      nofun
    · rw [← Operation.run?_eq_some_iff valid, done, Option.some.injEq, eq_comm]

/-- A loaded document is asked for lines that it does not have, shrinks and grows, and loses its current
line to the last one. -/
theorem after_fresh_shrunk :
    let history : List Operation := [.moveTo 0, .enter 2 5, .splice 0 1 [], .insert ["x", "y"]]
    let b : Buffer := ⟨["b", "x", "y", "c"], some 2, 1, none, .crlf⟩
    (ofText "a\r\nb\nc").after history = b ∧ (Operation.enter 2 5).OutOfBounds b ∧
      (ofText "a\r\nb\nc").after (history ++ [.splice 1 4 []]) = ⟨["b"], some 0, 1, none, .crlf⟩ ∧
      (Operation.splice 1 4 []).Makes b ⟨["b"], some 0, 1, none, .crlf⟩ := by
  intro history b
  have reached : (ofText "a\r\nb\nc").after history = b := by decide +kernel
  have spliced : (Operation.splice 1 4 []).run? b = some ⟨["b"], some 0, 1, none, .crlf⟩ := by
    decide +kernel
  obtain ⟨-, -, next⟩ := after_fresh (.ofText "a\r\nb\nc") reached
  rcases next (.splice 1 4 []) with ⟨-, refused, -⟩ | ⟨-, c, makes, done, later⟩
  · rw [spliced] at refused
    contradiction
  · obtain rfl := Option.some.inj (spliced.symm.trans done)
    exact ⟨reached, .inr (by decide), later, (makes _).mpr rfl⟩

end Buffer
end LineEditor
