import LineEditor.Number.Integer
import LineEditor.Proofs.Action

/-! Which texts are read as integers: those that write an integer in decimal which 64 bits can hold. -/
namespace LineEditor.Number.Integer

/-- A text writes an integer: a sign or none, and at least one digit. -/
inductive Written : List Char → Int → Prop where
  | plain : digits ≠ [] → (∀ c ∈ digits, c.isDigit = true) →
      Written digits (Nat.ofDigitChars 10 digits 0)
  | plus : digits ≠ [] → (∀ c ∈ digits, c.isDigit = true) →
      Written ('+' :: digits) (Nat.ofDigitChars 10 digits 0)
  | minus : digits ≠ [] → (∀ c ∈ digits, c.isDigit = true) →
      Written ('-' :: digits) (-(Nat.ofDigitChars 10 digits 0 : Int))

variable {text digits : List Char} {n bound : Nat}

theorem le_ofDigitChars (text : List Char) (n : Nat) : n ≤ Nat.ofDigitChars 10 text n := by
  induction text generalizing n with
  | nil => exact Nat.le_refl n
  | cons c text ih =>
    rw [Nat.ofDigitChars_cons]
    have first := ih (10 * n + (c.toNat - '0'.toNat))
    omega

/-- A text is read to its end exactly if it is a run of digits that stays within the bound, since a number
that is beyond it only grows. -/
theorem readDigits_eq_ok_iff (beyond : IntegerError) (within : n ≤ bound) :
    readDigits bound beyond n text = .ok m ↔
      (∀ c ∈ text, c.isDigit = true) ∧ m = Nat.ofDigitChars 10 text n ∧ m ≤ bound := by
  induction text generalizing n with
  | nil =>
    rw [readDigits, Nat.ofDigitChars_nil]
    constructor
    · rintro ⟨⟩
      exact ⟨nofun, rfl, within⟩
    · rintro ⟨-, rfl, -⟩
      rfl
  | cons c text ih =>
    rw [readDigits, Nat.ofDigitChars_cons, List.forall_mem_cons]
    by_cases digit : c.isDigit = true
    · rw [if_pos digit]
      have value : 10 * n + digitValue c = 10 * n + (c.toNat - '0'.toNat) := rfl
      by_cases out : bound < 10 * n + digitValue c
      · dsimp only
        rw [if_pos out]
        refine iff_of_false nofun ?_
        rintro ⟨-, rfl, inside⟩
        have least := le_ofDigitChars text (10 * n + (c.toNat - '0'.toNat))
        omega
      · dsimp only
        rw [if_neg out, ih (Nat.le_of_not_lt out), value]
        simp [digit]
    · simp [digit]

theorem map_readDigits_eq_ok_iff (beyond : IntegerError) (f : Nat → Int) :
    (readDigits bound beyond 0 digits).map f = .ok w ↔ (∀ c ∈ digits, c.isDigit = true) ∧
      Nat.ofDigitChars 10 digits 0 ≤ bound ∧ w = f (Nat.ofDigitChars 10 digits 0) := by
  rw [except_map_eq_ok_iff]
  constructor
  · rintro ⟨m, read, rfl⟩
    obtain ⟨all, rfl, within⟩ := (readDigits_eq_ok_iff beyond (Nat.zero_le bound)).mp read
    exact ⟨all, within, rfl⟩
  · rintro ⟨all, within, rfl⟩
    exact ⟨_, (readDigits_eq_ok_iff beyond (Nat.zero_le bound)).mpr ⟨all, rfl, within⟩, rfl⟩

theorem not_written_nil : ¬ Written [] w := by
  intro written
  cases written with
  | plain some _ => exact some rfl

theorem written_plus_iff : Written ('+' :: digits) w ↔
    digits ≠ [] ∧ (∀ c ∈ digits, c.isDigit = true) ∧ w = Nat.ofDigitChars 10 digits 0 := by
  constructor
  · intro written
    cases written with
    | plain _ all => exact absurd (all '+' List.mem_cons_self) (by decide)
    | plus some all => exact ⟨some, all, rfl⟩
  · rintro ⟨some, all, rfl⟩
    exact .plus some all

theorem written_minus_iff : Written ('-' :: digits) w ↔
    digits ≠ [] ∧ (∀ c ∈ digits, c.isDigit = true) ∧ w = -(Nat.ofDigitChars 10 digits 0 : Int) := by
  constructor
  · intro written
    cases written with
    | plain _ all => exact absurd (all '-' List.mem_cons_self) (by decide)
    | minus some all => exact ⟨some, all, rfl⟩
  · rintro ⟨some, all, rfl⟩
    exact .minus some all

theorem written_plain_iff (plus : ∀ digits, text ≠ '+' :: digits) (minus : ∀ digits, text ≠ '-' :: digits) :
    Written text w ↔
      text ≠ [] ∧ (∀ c ∈ text, c.isDigit = true) ∧ w = Nat.ofDigitChars 10 text 0 := by
  constructor
  · intro written
    cases written with
    | plain some all => exact ⟨some, all, rfl⟩
    | plus _ _ => exact (plus _ rfl).elim
    | minus _ _ => exact (minus _ rfl).elim
  · rintro ⟨some, all, rfl⟩
    exact .plain some all

/-- The texts that are read as integers are those that write one of 64 bits. -/
theorem parse_eq_ok_iff {w : Int} : parse text = .ok w ↔ Written text w ∧ min ≤ w ∧ w ≤ max := by
  have low : min = -0x8000000000000000 := rfl
  have high : max = 0x7FFFFFFFFFFFFFFF := rfl
  unfold parse
  split
  · exact iff_of_false nofun fun bounded => not_written_nil bounded.1
  · exact iff_of_false nofun fun bounded => (written_plus_iff.mp bounded.1).1 rfl
  · exact iff_of_false nofun fun bounded => (written_minus_iff.mp bounded.1).1 rfl
  · rename_i digits some
    rw [map_readDigits_eq_ok_iff, written_plus_iff, Int.ofNat_eq_natCast]
    constructor
    · rintro ⟨all, within, rfl⟩
      exact ⟨⟨some, all, rfl⟩, by omega, by omega⟩
    · rintro ⟨⟨-, all, rfl⟩, -, within⟩
      exact ⟨all, by omega, rfl⟩
  · rename_i digits some
    rw [map_readDigits_eq_ok_iff, written_minus_iff, Int.ofNat_eq_natCast]
    constructor
    · rintro ⟨all, within, rfl⟩
      exact ⟨⟨some, all, rfl⟩, by omega, by omega⟩
    · rintro ⟨⟨-, all, rfl⟩, within, -⟩
      exact ⟨all, by omega, rfl⟩
  · rename_i some _ _ plus minus
    rw [map_readDigits_eq_ok_iff, written_plain_iff plus minus, Int.ofNat_eq_natCast]
    constructor
    · rintro ⟨all, within, rfl⟩
      exact ⟨⟨some, all, rfl⟩, by omega, by omega⟩
    · rintro ⟨⟨-, all, rfl⟩, -, within⟩
      exact ⟨all, by omega, rfl⟩

theorem written_toDigits (n : Nat) : Nat.toDigits 10 n ≠ [] ∧ (∀ c ∈ Nat.toDigits 10 n, c.isDigit = true) ∧
    Nat.ofDigitChars 10 (Nat.toDigits 10 n) 0 = n :=
  ⟨Nat.toDigits_ne_nil, fun c member => Nat.isDigit_of_mem_toDigits (by decide) (by decide) member,
    Nat.ofDigitChars_ten_toDigits⟩

theorem written_toString (w : Int) : Written (toString w).toList w := by
  rw [Int.toString_eq_repr]
  cases w with
  | ofNat n =>
    obtain ⟨some, all, value⟩ := written_toDigits n
    have written := Written.plain some all
    rwa [value, ← Nat.toList_repr] at written
  | negSucc n =>
    obtain ⟨some, all, value⟩ := written_toDigits (n + 1)
    have written := Written.minus some all
    rw [value, ← Nat.toList_repr] at written
    rw [Int.repr, String.toList_append]
    exact written

end LineEditor.Number.Integer
