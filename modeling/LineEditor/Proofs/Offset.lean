import LineEditor.Proofs.Address
import LineEditor.Proofs.Decimal

/-! Numbers in addresses. A digit run names the same line as in unbounded integers, or no line, whatever its
length. Behind a sign a run that starts with zero is no number: the sign counts for one line, and the
digits stay. -/
namespace LineEditor.Address
open LineEditor.Number (Integer.saturate Integer.ofCount)

variable {text digits rest : List Char} {form : Form} {here count : Nat}

theorem noDigit_cons (other : ¬ c.isDigit) : NoDigit (c :: rest) := by
  intro d head
  cases head
  exact other

theorem value_pos (run : IsRun digits) : 0 < value digits := by
  cases digits with
  | nil => exact run.elim
  | cons c digits =>
    obtain ⟨digit, nonzero, -⟩ := run
    have least : '0'.toNat ≤ c.toNat := Char.isDigit_iff_toNat.mp digit |>.1
    have other : c.toNat ≠ '0'.toNat := fun same => nonzero (Char.toNat_inj.mp same)
    have first := Number.Integer.le_ofDigitChars digits (10 * 0 + (c.toNat - '0'.toNat))
    rw [value, Nat.ofDigitChars_cons]
    omega

/-- An address with a current line is found, and the check accepts it exactly if it names a line. -/
theorem resolve_validate (reads : Reads text form rest) (which : Endpoint)
    (bound : count < 0x7FFFFFFFFFFFFFFF) (inside : here < count) (names : Prop) [Decidable names]
    (line : Nat) (named : names → form.index here count = line ∧ line < count)
    (unnamed : ¬ names → form.index here count < 0 ∨ count ≤ form.index here count) :
    ∃ index, resolve (some here) count text = .ok (some ⟨rest, index⟩) ∧
      validate index count which =
        if names then .ok line else .error (.outOfRange index count which) := by
  have known : ∀ i ∈ some here, i < count := by
    rintro i ⟨⟩
    exact inside
  have checked := validate_reported form which bound fun _ => inside
  refine ⟨form.reported here count, ?_, ?_⟩
  · rw [resolve_of_reads reads (some here) bound known, if_neg (by simp)]
    rfl
  · by_cases holds : names
    · obtain ⟨same, below⟩ := named holds
      rw [checked, if_pos holds, if_pos (by omega), same, Int.toNat_natCast]
    · have outside := unnamed holds
      rw [checked, if_neg holds, if_neg (by omega)]

/-- A number names the line that it counts to, from the start of the document or from the current line, if
there is such a line, and no line otherwise, however long its digit run is. What stands behind the
run is left as it is. -/
theorem validate_number (here count : Nat) (which : Endpoint) (digits rest : List Char)
    (bound : count < 0x7FFFFFFFFFFFFFFF) (inside : here < count) (run : IsRun digits)
    (stop : NoDigit rest) :
    let v := value digits
    0 < v ∧
    (∃ index, resolve (some here) count (digits ++ rest) = .ok (some ⟨rest, index⟩) ∧
      validate index count which =
        if v ≤ count then .ok (v - 1) else .error (.outOfRange index count which)) ∧
    (∃ index, resolve (some here) count ('+' :: (digits ++ rest)) = .ok (some ⟨rest, index⟩) ∧
      validate index count which =
        if here + v < count then .ok (here + v) else .error (.outOfRange index count which)) ∧
    ∃ index, resolve (some here) count ('-' :: (digits ++ rest)) = .ok (some ⟨rest, index⟩) ∧
      validate index count which =
        if v ≤ here then .ok (here - v) else .error (.outOfRange index count which) := by
  intro v
  have positive : 0 < v := value_pos run
  refine ⟨positive, ?_, ?_, ?_⟩
  · refine resolve_validate (.line run stop) which bound inside (v ≤ count) (v - 1) ?_ ?_
    all_goals
      simp only [Form.index]
      omega
  · refine resolve_validate (.ahead (.run run stop)) which bound inside (here + v < count) (here + v) ?_ ?_
    all_goals
      simp only [Form.index]
      omega
  · refine resolve_validate (.back (.run run stop)) which bound inside (v ≤ here) (here - v) ?_ ?_
    all_goals
      simp only [Form.index]
      omega

/-- In 64 bits the first number would come round to 2, which is a line. -/
theorem validate_number_round :
    let beyond := Nat.toDigits 10 18446744073709551618
    (∃ index, resolve (some 1) 3 (beyond ++ ['p']) = .ok (some ⟨['p'], index⟩) ∧
      validate index 3 .first = .error (.outOfRange index 3 .first)) ∧
    ∃ index, resolve (some 1) 3 ['-', '1', ',', '3'] = .ok (some ⟨[',', '3'], index⟩) ∧
      validate index 3 .last = .ok 0 := by
  intro beyond
  have count : value beyond = 18446744073709551618 := Nat.ofDigitChars_ten_toDigits
  have run : IsRun beyond := isRun_toDigits 18446744073709551618 (by decide)
  obtain ⟨-, ⟨index, found, refused⟩, -, -⟩ := validate_number 1 3 .first beyond ['p'] (by decide)
    (by decide) run (noDigit_cons (by decide))
  obtain ⟨-, -, -, back⟩ := validate_number 1 3 .last ['1'] [',', '3'] (by decide) (by decide)
    ⟨by decide, by decide, nofun⟩ (noDigit_cons (by decide))
  rw [count, if_neg (by decide)] at refused
  exact ⟨⟨index, found, refused⟩, back⟩

/-! ### Offsets -/

inductive Sign where
  | ahead
  | back
  deriving DecidableEq, Repr

namespace Sign

def char : Sign → Char
  | ahead => '+'
  | back => '-'

def shift (here distance : Int) : Sign → Int
  | ahead => here + distance
  | back => here - distance

end Sign

theorem resolve_signed (sign : Sign) (here count : Nat) (tail : List Char) :
    resolve (some here) count (sign.char :: tail) =
      .ok (some ⟨(step tail).2, Integer.saturate (sign.shift (Integer.ofCount here) (step tail).1)⟩) := by
  cases sign with
  | ahead =>
    have unnumbered : number? ('+' :: tail) = none := rfl
    simp only [Sign.char, resolve, unnumbered]
    rfl
  | back =>
    have unnumbered : number? ('-' :: tail) = none := rfl
    simp only [Sign.char, resolve, unnumbered]
    rfl

/-- Distances and positions that 64 bits hold are exact, and others lead to no line of any document. -/
theorem saturate_shift (sign : Sign) (held : here < 0x7FFFFFFFFFFFFFFF) (n : Nat) :
    let index := Integer.saturate (sign.shift here (Integer.saturate n))
    let small := n ≤ 0x7FFFFFFFFFFFFFFF ∧ sign.shift here n ≤ 0x7FFFFFFFFFFFFFFF
    (small → index = sign.shift here n) ∧ (¬ small → index < 0 ∨ 0x7FFFFFFFFFFFFFFF ≤ index) := by
  cases sign
  all_goals
    simp only [Sign.shift, Integer.saturate, Number.Integer.min, Number.Integer.max]
    omega

/-- Digits behind a sign are its distance, all of them, unless they start with zero: then the sign counts
for one line and all of them stay. -/
theorem resolve_offset (sign : Sign) (here count : Nat) (digits rest : List Char)
    (nonempty : digits ≠ []) (numeric : ∀ c ∈ digits, c.isDigit) (stop : NoDigit rest) :
    let offset := resolve (some here) count (sign.char :: (digits ++ rest))
    let held := here < 0x7FFFFFFFFFFFFFFF
    let target := sign.shift here (value digits)
    let small := value digits ≤ 0x7FFFFFFFFFFFFFFF ∧ target ≤ 0x7FFFFFFFFFFFFFFF
    (digits.head? ≠ some '0' → ∃ index, offset = .ok (some ⟨rest, index⟩) ∧
      (held → (small → index = target) ∧ (¬ small → index < 0 ∨ 0x7FFFFFFFFFFFFFFF ≤ index))) ∧
    (digits.head? = some '0' → ∃ index, offset = .ok (some ⟨digits ++ rest, index⟩) ∧
      (held → index = sign.shift here 1)) := by
  intro offset held target small
  have found := resolve_signed sign here count (digits ++ rest)
  constructor
  · intro nonzero
    have run : IsRun digits := by
      cases digits with
      | nil => exact nonempty rfl
      | cons c digits =>
        obtain ⟨digit, later⟩ := List.forall_mem_cons.mp numeric
        exact ⟨digit, fun zero => nonzero (congrArg some zero), later⟩
    rw [step_of_reads (.run run stop)] at found
    refine ⟨_, found, fun held => ?_⟩
    rw [Number.Integer.ofCount_eq held]
    exact saturate_shift sign held (value digits)
  · intro zero
    have absent : NoRun (digits ++ rest) := by
      intro c head _
      cases digits with
      | nil => contradiction
      | cons d digits => exact (Option.some.inj head).symm.trans (Option.some.inj zero)
    rw [step_of_reads (.one absent)] at found
    refine ⟨_, found, fun held => ?_⟩
    rw [Number.Integer.ofCount_eq held]
    have near : sign.shift here 1 ≤ 0x7FFFFFFFFFFFFFFF := by
      cases sign <;> simp only [Sign.shift] <;> omega
    exact (saturate_shift sign held 1).1 ⟨by decide, near⟩

/-- Of two offsets by seven lines only the one without a leading zero goes that far. -/
theorem resolve_offset_seven :
    resolve (some 2) 5 ['-', '7', 'd'] = .ok (some ⟨['d'], -5⟩) ∧
      resolve (some 2) 5 ['-', '0', '7', 'd'] = .ok (some ⟨['0', '7', 'd'], 1⟩) := by
  obtain ⟨seven, -⟩ := resolve_offset .back 2 5 ['7'] ['d'] nofun (List.all_eq_true.mp rfl)
    (noDigit_cons (by decide))
  obtain ⟨-, padded⟩ := resolve_offset .back 2 5 ['0', '7'] ['d'] nofun (List.all_eq_true.mp rfl)
    (noDigit_cons (by decide))
  constructor
  · obtain ⟨index, found, known⟩ := seven (by decide)
    obtain rfl : index = -5 := (known (by decide)).1 (by decide)
    exact found
  · obtain ⟨index, found, known⟩ := padded rfl
    obtain rfl : index = 1 := known (by decide)
    exact found

/-- An offset of zero does not name the current line: it is read as `+` with a zero behind it. -/
theorem not_resolve_offset_zero :
    ∃ digits rest, digits ≠ [] ∧ (∀ c ∈ digits, c.isDigit) ∧ NoDigit rest ∧ value digits = 0 ∧
      resolve (some 2) 5 ('+' :: (digits ++ rest)) = .ok (some ⟨digits ++ rest, 3⟩) ∧
      ¬ ∃ index, resolve (some 2) 5 ('+' :: (digits ++ rest)) = .ok (some ⟨rest, index⟩) := by
  refine ⟨['0'], ['p'], nofun, List.all_eq_true.mp rfl, noDigit_cons (by decide), rfl, rfl, ?_⟩
  rintro ⟨index, whole⟩
  cases whole

end LineEditor.Address
