import LineEditor.Address

/-! The grammar of addresses, read apart from any document, and the positions that addresses name in
unbounded integers. `resolve_of_reads` and `validate_reported` tie both to the resolver: 64-bit
arithmetic shows only in the position that is reported of an address outside the document. -/
namespace LineEditor

/-- Counts below the largest signed number of 64 bits keep their value. -/
theorem Number.Integer.ofCount_eq (small : n < 0x7FFFFFFFFFFFFFFF) : ofCount n = n :=
  Int.bmod_eq_of_le (by omega) (by omega)

namespace Address

inductive Form where
  | line (n : Nat)
  | ahead (n : Nat)
  | back (n : Nat)
  | here
  | final
  deriving DecidableEq, Repr

/-- `[1-9][0-9]*` -/
def IsRun : List Char → Prop
  | [] => False
  | c :: rest => c.isDigit ∧ c ≠ '0' ∧ ∀ d ∈ rest, d.isDigit

/-- No digit run can be made longer by what stands here. -/
def NoDigit (text : List Char) : Prop := ∀ c ∈ text.head?, ¬ c.isDigit

def NoRun (text : List Char) : Prop := ∀ c ∈ text.head?, c.isDigit → c = '0'

def value (digits : List Char) : Nat := Nat.ofDigitChars 10 digits 0

/-- A sign takes the whole digit run behind it, and counts for one if there is none. -/
inductive ReadsOffset : List Char → Nat → List Char → Prop where
  | one : NoRun rest → ReadsOffset rest 1 rest
  | run : IsRun digits → NoDigit rest → ReadsOffset (digits ++ rest) (value digits) rest

/-- The greedy reading of one address at the head of a text, and what it leaves. -/
inductive Reads : List Char → Form → List Char → Prop where
  | line : IsRun digits → NoDigit rest → Reads (digits ++ rest) (.line (value digits)) rest
  | ahead : ReadsOffset text n rest → Reads ('+' :: text) (.ahead n) rest
  | back : ReadsOffset text n rest → Reads ('-' :: text) (.back n) rest
  | here : Reads ('.' :: rest) .here rest
  | final : Reads ('$' :: rest) .final rest

/-- An address may be left out, but only where none can be read. -/
inductive ReadsOptional : List Char → Option Form → List Char → Prop where
  | none : (∀ form rest, ¬ Reads text form rest) → ReadsOptional text none text
  | some : Reads text form rest → ReadsOptional text (some form) rest

namespace Form

/-- Every address but a line number starts from the current line, or at least needs one. -/
def relative : Form → Bool
  | line _ => false
  | _ => true

/-- The position named, counted from zero. It need not lie in the document. -/
def index (here count : Nat) : Form → Int
  | line n => n - 1
  | ahead n => here + n
  | back n => here - n
  | .here => here
  | final => count - 1

/-- What is reported of a position outside the document: digit runs and sums count for no more than
the largest number of 64 bits. -/
def reported (here count : Nat) : Form → Int
  | line n => Number.Integer.saturate n - 1
  | ahead n => Number.Integer.saturate (here + n)
  | back n => here - Number.Integer.saturate n
  | .here => here
  | final => count - 1

def locate (cursor : Option Nat) (count : Nat) (which : Endpoint) (a : Form) :
    Except AddressError Nat :=
  let here := cursor.getD 0
  if a.relative ∧ cursor = none then .error .noCurrentLine
  else if 0 ≤ a.index here count ∧ a.index here count < count then .ok (a.index here count).toNat
  else .error (.outOfRange (a.reported here count) count which)

end Form

theorem value_eq_digitsValue (digits : List Char) : value digits = Number.digitsValue digits :=
  Nat.ofDigitChars_eq_foldl

theorem IsRun.all_digits (run : IsRun digits) : ∀ c ∈ digits, c.isDigit := by
  cases digits with
  | nil => exact run.elim
  | cons c rest =>
    intro d member
    rcases List.mem_cons.mp member with rfl | member
    · exact run.1
    · exact run.2.2 d member

theorem takeWhile_of_noDigit (stop : NoDigit rest) : rest.takeWhile Char.isDigit = [] := by
  cases rest with
  | nil => rfl
  | cons c rest => exact List.takeWhile_cons_of_neg (stop c rfl)

theorem dropWhile_of_noDigit (stop : NoDigit rest) : rest.dropWhile Char.isDigit = rest := by
  cases rest with
  | nil => rfl
  | cons c rest => exact List.dropWhile_cons_of_neg (stop c rfl)

theorem number?_of_run (run : IsRun digits) (stop : NoDigit rest) :
    number? (digits ++ rest) = some (Number.Integer.saturate (value digits), rest) := by
  have starts : startsNumber (digits ++ rest) = true := by
    cases digits with
    | nil => exact run.elim
    | cons c tail => simp [startsNumber, run.1, run.2.1]
  rw [number?, if_pos starts, List.takeWhile_append_of_pos run.all_digits,
    List.dropWhile_append_of_pos run.all_digits, takeWhile_of_noDigit stop,
    dropWhile_of_noDigit stop, List.append_nil, ← value_eq_digitsValue]

theorem number?_of_noRun (absent : NoRun text) : number? text = none := by
  cases text with
  | nil => rfl
  | cons c rest =>
    have zero : c.isDigit → c = '0' := absent c (by simp)
    simp only [number?, startsNumber, Bool.and_eq_true, bne_iff_ne, ne_eq]
    rw [if_neg]
    rintro ⟨digit, nonzero⟩
    exact nonzero (zero digit)

theorem noRun_or_run (text : List Char) :
    NoRun text ∨ ∃ digits rest, text = digits ++ rest ∧ IsRun digits ∧ NoDigit rest := by
  by_cases absent : NoRun text
  · exact .inl absent
  · right
    cases text with
    | nil => simp [NoRun] at absent
    | cons c tail =>
      obtain ⟨digit, nonzero⟩ : c.isDigit ∧ c ≠ '0' := by simpa [NoRun] using absent
      refine ⟨c :: tail.takeWhile Char.isDigit, tail.dropWhile Char.isDigit, ?_, ?_, ?_⟩
      · simp [List.takeWhile_append_dropWhile]
      · exact ⟨digit, nonzero, List.all_eq_true.mp List.all_takeWhile⟩
      · intro d head
        have := List.head?_dropWhile_not Char.isDigit tail
        simp_all

theorem readsOffset_exists (text : List Char) : ∃ n rest, ReadsOffset text n rest := by
  rcases noRun_or_run text with absent | ⟨digits, rest, rfl, run, stop⟩
  · exact ⟨1, text, .one absent⟩
  · exact ⟨_, _, .run run stop⟩

theorem readsOptional_exists (text : List Char) : ∃ form rest, ReadsOptional text form rest := by
  by_cases present : ∃ form rest, Reads text form rest
  · obtain ⟨form, rest, reads⟩ := present
    exact ⟨some form, rest, .some reads⟩
  · exact ⟨none, text, .none fun form rest reads => present ⟨form, rest, reads⟩⟩

def Begins (c : Char) : Prop :=
  (c.isDigit ∧ c ≠ '0') ∨ c = '+' ∨ c = '-' ∨ c = '.' ∨ c = '$'

/-- One character tells whether an address stands here. -/
theorem exists_reads_cons_iff {tail : List Char} :
    (∃ form rest, Reads (c :: tail) form rest) ↔ Begins c := by
  constructor
  · rintro ⟨form, rest, reads⟩
    generalize whole : c :: tail = text at reads
    cases reads with
    | @line digits _ run _ =>
      cases digits with
      | nil => exact run.elim
      | cons d digits =>
        cases whole
        exact .inl ⟨run.1, run.2.1⟩
    | _ => cases whole; simp [Begins]
  · rintro (⟨digit, nonzero⟩ | rfl | rfl | rfl | rfl)
    · rcases noRun_or_run (c :: tail) with absent | ⟨digits, rest, whole, run, stop⟩
      · exact (nonzero (absent c rfl digit)).elim
      · rw [whole]
        exact ⟨_, _, .line run stop⟩
    · obtain ⟨n, rest, offset⟩ := readsOffset_exists tail
      exact ⟨_, _, .ahead offset⟩
    · obtain ⟨n, rest, offset⟩ := readsOffset_exists tail
      exact ⟨_, _, .back offset⟩
    · exact ⟨_, _, .here⟩
    · exact ⟨_, _, .final⟩

theorem not_reads_nil : ¬ Reads [] form rest := by
  generalize whole : [] = text
  intro reads
  cases reads with
  | @line digits _ run _ =>
    cases digits with
    | nil => exact run
    | cons _ _ => contradiction
  | _ => contradiction

theorem not_reads_comma {tail : List Char} : ¬ Reads (',' :: tail) form rest := by
  intro reads
  have begins := exists_reads_cons_iff.mp ⟨form, rest, reads⟩
  simp [Begins] at begins

theorem noRun_of_noReads (absent : ∀ form rest, ¬ Reads text form rest) : NoRun text := by
  rcases noRun_or_run text with noRun | ⟨digits, rest, rfl, run, stop⟩
  · exact noRun
  · exact (absent _ _ (.line run stop)).elim

/-- Only zero is written with a leading zero. -/
theorem isRun_toDigits (n : Nat) (positive : 0 < n) : IsRun (Nat.toDigits 10 n) := by
  induction n using Nat.strongRecOn with
  | _ n ih =>
    by_cases short : n < 10
    · rw [Nat.toDigits_of_lt_base short]
      refine ⟨?_, ?_, nofun⟩
      · rw [Nat.isDigit_digitChar, decide_eq_true short]
      · intro zero
        exact Nat.ne_of_gt positive (Nat.digitChar_eq_zero.mp zero)
    · rw [Nat.toDigits_of_base_le (by decide) (Nat.le_of_not_lt short)]
      have front := ih (n / 10) (by omega) (by omega)
      have last : (n % 10).digitChar.isDigit := by
        rw [Nat.isDigit_digitChar, decide_eq_true (Nat.mod_lt n (by decide))]
      cases digits : Nat.toDigits 10 (n / 10) with
      | nil => exact (Nat.toDigits_ne_nil digits).elim
      | cons c tail =>
        rw [digits] at front
        refine ⟨front.1, front.2.1, ?_⟩
        intro d member
        rcases List.mem_append.mp member with inside | here
        · exact front.2.2 d inside
        · obtain rfl := List.mem_singleton.mp here
          exact last

/-- A number that is written out is read as that line number. -/
theorem reads_toDigits (n : Nat) (positive : 0 < n) (stop : NoDigit rest) :
    Reads (Nat.toDigits 10 n ++ rest) (.line n) rest := by
  have reads := Reads.line (isRun_toDigits n positive) stop
  rwa [value, Nat.ofDigitChars_ten_toDigits] at reads

theorem step_of_reads (reads : ReadsOffset text n rest) :
    step text = (Number.Integer.saturate n, rest) := by
  cases reads with
  | one absent => simp [step, number?_of_noRun absent]; rfl
  | run run stop => simp [step, number?_of_run run stop]

theorem number?_of_noReads (absent : ∀ form rest, ¬ Reads text form rest) :
    number? text = none :=
  number?_of_noRun (noRun_of_noReads absent)

theorem saturate_add_saturate (here n : Nat) :
    Number.Integer.saturate (here + Number.Integer.saturate n) = Number.Integer.saturate (here + n) := by
  simp only [Number.Integer.saturate, Number.Integer.min, Number.Integer.max]
  omega

theorem saturate_sub_saturate (here n : Nat) (small : here < 0x7FFFFFFFFFFFFFFF) :
    Number.Integer.saturate (here - Number.Integer.saturate n) = here - Number.Integer.saturate n := by
  simp only [Number.Integer.saturate, Number.Integer.min, Number.Integer.max]
  omega

/-- What the resolver makes of an address, before anything is checked. -/
theorem resolve_of_reads (reads : Reads text form rest) (cursor : Option Nat)
    (bound : count < 0x7FFFFFFFFFFFFFFF) (inside : ∀ i ∈ cursor, i < count) :
    resolve cursor count text =
      if form.relative ∧ cursor = none then .error .noCurrentLine
      else .ok (some ⟨rest, form.reported (cursor.getD 0) count⟩) := by
  have counted := Number.Integer.ofCount_eq bound
  cases cursor with
  | none =>
    cases reads with
    | line run stop => simp [resolve, number?_of_run run stop, Form.relative, Form.reported]
    | _ => rfl
  | some here =>
    have small : here < 0x7FFFFFFFFFFFFFFF := Nat.lt_trans (inside here rfl) bound
    have known : current (some here) = .ok (here : Int) := by
      simp [current, Number.Integer.ofCount_eq small]
    cases reads with
    | line run stop => simp [resolve, number?_of_run run stop, Form.relative, Form.reported]
    | @ahead tail n _ offset =>
      have sign : number? ('+' :: tail) = none := rfl
      simp [resolve, sign, known, step_of_reads offset, Form.reported, saturate_add_saturate,
        Functor.map, Except.map]
    | @back tail n _ offset =>
      have sign : number? ('-' :: tail) = none := rfl
      simp [resolve, sign, known, step_of_reads offset, Form.reported,
        saturate_sub_saturate here n small, Functor.map, Except.map]
    | here =>
      have dot : number? ('.' :: rest) = none := rfl
      simp only [resolve, dot, known]
      rfl
    | final =>
      have dollar : number? ('$' :: rest) = none := rfl
      simp only [resolve, dollar, known, counted]
      rfl

theorem resolve_of_noReads (absent : ∀ form rest, ¬ Reads text form rest) (cursor : Option Nat)
    (count : Nat) : resolve cursor count text = .ok none := by
  have unnumbered := number?_of_noReads absent
  unfold resolve
  split
  · simp_all
  · rename_i tail _
    obtain ⟨n, rest, offset⟩ := readsOffset_exists tail
    exact (absent _ _ (.ahead offset)).elim
  · rename_i tail _
    obtain ⟨n, rest, offset⟩ := readsOffset_exists tail
    exact (absent _ _ (.back offset)).elim
  · exact (absent _ _ .here).elim
  · exact (absent _ _ .final).elim
  · rfl

/-- The position that is reported is the true one, unless neither is in the document. -/
theorem reported_agrees (a : Form) (bound : count < 0x7FFFFFFFFFFFFFFF)
    (inside : a.relative → here < count) :
    a.reported here count = a.index here count ∨
      ¬ (0 ≤ a.reported here count ∧ a.reported here count < count) ∧
      ¬ (0 ≤ a.index here count ∧ a.index here count < count) := by
  cases a with
  | line n =>
    simp only [Form.reported, Form.index, Number.Integer.saturate, Number.Integer.min,
      Number.Integer.max]
    omega
  | ahead n =>
    simp only [Form.reported, Form.index, Number.Integer.saturate, Number.Integer.min,
      Number.Integer.max]
    omega
  | back n =>
    have := inside rfl
    simp only [Form.reported, Form.index, Number.Integer.saturate, Number.Integer.min,
      Number.Integer.max]
    omega
  | here => exact .inl rfl
  | final => exact .inl rfl

theorem Form.locate_lt {a : Form} (found : a.locate cursor count which = .ok i) : i < count := by
  simp only [locate] at found
  split at found
  · contradiction
  · split at found
    · cases found
      omega
    · contradiction

theorem Form.locate_line (cursor : Option Nat) (which : Endpoint) (inside : n < count) :
    (line (n + 1)).locate cursor count which = .ok n := by
  have position : (line (n + 1)).index (cursor.getD 0) count = n := by
    simp only [index]
    omega
  simp only [locate, relative, position]
  rw [if_neg (by simp), if_pos (by omega), Int.toNat_natCast]

/-- The check accepts what is reported exactly if the true position is a line. -/
theorem validate_reported (a : Form) (which : Endpoint) (bound : count < 0x7FFFFFFFFFFFFFFF)
    (inside : a.relative → here < count) :
    validate (a.reported here count) count which =
      if 0 ≤ a.index here count ∧ a.index here count < count then
        .ok (a.index here count).toNat
      else .error (.outOfRange (a.reported here count) count which) := by
  unfold validate
  rcases reported_agrees a bound inside with same | ⟨reportedOutside, outside⟩
  · rw [same]
  · rw [if_neg reportedOutside, if_neg outside]

end Address
end LineEditor
