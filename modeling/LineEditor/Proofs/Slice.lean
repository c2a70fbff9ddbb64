import LineEditor.Execute
import LineEditor.Proofs.Range

/-! Slices that are cut out of a document and put back over the lines they were cut from. A slice of a
slice is a slice of the document, and putting both back one after the other is putting the inner one
back at once. -/
namespace LineEditor.Buffer

def restore (b : Buffer) (range : LineRange) (slice : Buffer) : Buffer :=
  let lines := b.lines.take range.start ++ slice.lines ++ b.lines.drop range.stop
  { adopt slice b with lines, cursor := keepCursor b.cursor lines }

theorem restore_eq (b : Buffer) (range : LineRange) (slice : Buffer) :
    b.restore range slice =
      ⟨b.lines.take range.start ++ slice.lines ++ b.lines.drop range.stop,
        keepCursor b.cursor (b.lines.take range.start ++ slice.lines ++ b.lines.drop range.stop),
        b.firstNumber, slice.file.or b.file, if b.isEmpty then slice.ending else b.ending⟩ := by
  simp only [restore, adopt, isEmpty]
  by_cases empty : b.lines.isEmpty
  · simp only [empty, if_true]
  · simp only [empty]
    rfl

theorem exists_moveTo (b : Buffer) (i : Option Nat) :
    ∃ moved, i.elim b b.moveTo = { b with cursor := moved } := by
  cases i with
  | none => exact ⟨b.cursor, rfl⟩
  | some i =>
    unfold moveTo
    simp only [Option.elim]
    split
    · exact ⟨some i, rfl⟩
    · exact ⟨b.cursor, rfl⟩

theorem lastOf_valid (b : Buffer) (lines : List String) :
    { b with lines, cursor := lastOf lines }.Valid := by
  cases lines with
  | nil => rfl
  | cons line lines => simp [Valid, lastOf]

theorem keepCursor_of_valid {b : Buffer} (valid : b.Valid) : keepCursor b.cursor b.lines = b.cursor := by
  unfold Valid at valid
  cases here : b.cursor with
  | none =>
    rw [here] at valid
    simp [keepCursor, lastOf, valid]
  | some i =>
    rw [here] at valid
    exact if_pos valid

variable {b sub slice : Buffer}

/-! ### Numbers -/

@[simp] theorem numberAt_zero (b : Buffer) : b.numberAt 0 = b.firstNumber :=
  UInt64.add_zero b.firstNumber

/-- Numbers go on from any line as they go on from the first. -/
theorem numberAt_numberAt (first : sub.firstNumber = b.numberAt i) (j : Nat) :
    sub.numberAt j = b.numberAt (i + j) := by
  rw [numberAt, first, numberAt, numberAt, UInt64.ofNat_add, UInt64.add_assoc]

theorem numberAt_succ (b : Buffer) (i : Nat) : b.numberAt i + 1 = b.numberAt (i + 1) := by
  rw [numberAt, numberAt, UInt64.ofNat_add, UInt64.add_assoc]
  rfl

/-- Before the greatest number is passed, numbers are sums. -/
theorem toNat_numberAt (bounded : b.firstNumber.toNat + i < UInt64.size) :
    (b.numberAt i).toNat = b.firstNumber.toNat + i := by
  have small : i < UInt64.size := Nat.lt_of_le_of_lt (Nat.le_add_left i b.firstNumber.toNat) bounded
  rw [numberAt, UInt64.toNat_add, UInt64.toNat_ofNat_of_lt' small]
  exact Nat.mod_eq_of_lt bounded

/-! ### Cutting out and putting back -/

theorem slice?_eq_some_iff :
    b.slice? start stop = some slice ↔
      start ≤ stop ∧ stop ≤ b.count ∧
        slice = { b with
          lines := (b.lines.take stop).drop start
          cursor := lastOf ((b.lines.take stop).drop start)
          firstNumber := b.numberAt start } := by
  unfold slice?
  by_cases inside : start ≤ stop ∧ stop ≤ b.count
  · simp [inside, eq_comm]
  · simp only [if_neg inside]
    constructor
    · nofun
    · rintro ⟨ordered, bounded, _⟩
      exact (inside ⟨ordered, bounded⟩).elim

theorem slice_valid (cut : b.slice? start stop = some slice) : slice.Valid := by
  obtain ⟨-, -, rfl⟩ := slice?_eq_some_iff.mp cut
  exact lastOf_valid { b with firstNumber := b.numberAt start } _

theorem slice_count (cut : b.slice? start stop = some slice) : slice.count = stop - start := by
  obtain ⟨-, bounded, rfl⟩ := slice?_eq_some_iff.mp cut
  simp only [count] at bounded ⊢
  simp [List.length_drop, List.length_take, Nat.min_eq_left bounded]

theorem slice_count_le (cut : b.slice? start stop = some slice) : slice.count ≤ b.count := by
  have bounded := (slice?_eq_some_iff.mp cut).2.1
  rw [slice_count cut]
  omega

theorem slice_firstNumber (cut : b.slice? start stop = some slice) :
    slice.firstNumber = b.numberAt start := by
  obtain ⟨-, -, rfl⟩ := slice?_eq_some_iff.mp cut
  rfl

theorem take_append_slice (lines : List String) (ordered : start ≤ stop) :
    lines.take start ++ (lines.take stop).drop start = lines.take stop := by
  have whole := List.take_append_drop start (lines.take stop)
  rwa [List.take_take, Nat.min_eq_left ordered] at whole

theorem take_append_take_slice (lines : List String) (fits : start + i ≤ stop) :
    lines.take start ++ ((lines.take stop).drop start).take i = lines.take (start + i) := by
  rw [List.take_drop, List.take_take, Nat.min_eq_left fits]
  conv => lhs; lhs; rw [← Nat.min_eq_left (Nat.le_add_right start i), ← List.take_take]
  exact List.take_append_drop start (lines.take (start + i))

theorem drop_slice_append_drop (lines : List String) (fits : start + i ≤ stop)
    (bounded : stop ≤ lines.length) :
    ((lines.take stop).drop start).drop i ++ lines.drop stop = lines.drop (start + i) := by
  have inside : start + i ≤ (lines.take stop).length := by
    rw [List.length_take, Nat.min_eq_left bounded]
    exact fits
  rw [List.drop_drop, ← List.drop_append_of_le_length inside, List.take_append_drop]

/-- Cutting out twice is cutting out once, at positions counted from the document's first line. -/
theorem slice?_slice {outer : LineRange} (cut : b.slice? outer.start outer.stop = some sub)
    (again : sub.slice? start stop = some slice) :
    b.slice? (outer.start + start) (outer.start + stop) = some slice := by
  have length := slice_count cut
  have number := numberAt_numberAt (slice_firstNumber cut) start
  obtain ⟨outerOrdered, outerBounded, rfl⟩ := slice?_eq_some_iff.mp cut
  obtain ⟨ordered, bounded, rfl⟩ := slice?_eq_some_iff.mp again
  rw [length] at bounded
  have same : (((b.lines.take outer.stop).drop outer.start).take stop).drop start =
      (b.lines.take (outer.start + stop)).drop (outer.start + start) := by
    rw [List.take_drop, List.take_take, Nat.min_eq_left (by omega), List.drop_drop]
  refine slice?_eq_some_iff.mpr ⟨by omega, by omega, ?_⟩
  simp only [same, number]

/-- Putting back twice is putting back once: what the inner slice has become arrives in the document
with its lines, its file and, in an empty document, its terminator. -/
theorem restore_restore {outer : LineRange} (cut : b.slice? outer.start outer.stop = some sub)
    (ordered : start ≤ stop) (bounded : stop ≤ sub.count) (cursor : Option Nat) (slice : Buffer) :
    b.restore outer ({ sub with cursor }.restore ⟨start, stop⟩ slice) =
      b.restore ⟨outer.start + start, outer.start + stop⟩ slice := by
  have length := slice_count cut
  obtain ⟨outerOrdered, outerBounded, rfl⟩ := slice?_eq_some_iff.mp cut
  rw [length] at bounded
  have lines : b.lines.take outer.start ++
        (((b.lines.take outer.stop).drop outer.start).take start ++ slice.lines ++
          ((b.lines.take outer.stop).drop outer.start).drop stop) ++ b.lines.drop outer.stop =
      b.lines.take (outer.start + start) ++ slice.lines ++ b.lines.drop (outer.start + stop) := by
    rw [← take_append_take_slice b.lines (show outer.start + start ≤ outer.stop by omega),
      ← drop_slice_append_drop b.lines (show outer.start + stop ≤ outer.stop by omega) outerBounded]
    simp only [List.append_assoc]
  have ending : (if b.isEmpty then if ((b.lines.take outer.stop).drop outer.start).isEmpty then
      slice.ending else b.ending else b.ending) = if b.isEmpty then slice.ending else b.ending := by
    by_cases empty : b.isEmpty
    · have none : b.lines = [] := List.isEmpty_iff.mp empty
      simp [none]
    · simp [empty]
  have file : (slice.file.or b.file).or b.file = slice.file.or b.file := by
    rw [Option.or_assoc, Option.or_self]
  simp only [restore_eq]
  rw [lines, file]
  exact congrArg (Buffer.mk _ _ _ _) ending

/-- A slice with no other lines than those cut out changes nothing when it is put back but the file,
if it has been given one. -/
theorem restore_slice {range : LineRange} (cut : b.slice? range.start range.stop = some slice)
    (here there : Option Nat) (file : Option String) :
    { b with cursor := here }.restore range { slice with cursor := there, file } =
      { b with cursor := keepCursor here b.lines, file := file.or b.file } := by
  obtain ⟨ordered, bounded, rfl⟩ := slice?_eq_some_iff.mp cut
  have ending : (if b.isEmpty then b.ending else b.ending) = b.ending := ite_self _
  simp only [restore_eq, take_append_slice b.lines ordered, List.take_append_drop]
  exact congrArg (Buffer.mk _ _ _ _) ending

theorem exists_restore {range : LineRange} (cut : b.slice? range.start range.stop = some slice)
    (here there : Option Nat) :
    ∃ moved, { b with cursor := here }.restore range { slice with cursor := there } =
      { b with cursor := moved } := by
  refine ⟨keepCursor here b.lines, ?_⟩
  have same : slice.file = b.file := by
    obtain ⟨-, -, rfl⟩ := slice?_eq_some_iff.mp cut
    rfl
  rw [restore_slice cut here there slice.file, same, Option.or_self]

end LineEditor.Buffer
