import LineEditor.Options.Read
import LineEditor.Proofs.Decimal
import Mathlib.Data.List.Nodup

/-! What a word denotes as a value of a kind, and what the getters say of the values found. -/
namespace LineEditor.Options

/-- What a word denotes as a value of a kind. Any word denotes itself, an integer is written in decimal and
held by 64 bits, and a path has at least one character. -/
inductive Kind.Denotes : Kind → String → Value → Prop where
  | text (word : String) : Denotes .text word (.text word)
  | path : word ≠ "" → Denotes .path word (.text word)
  | integer : Number.Integer.Written word.toList n → Number.Integer.min ≤ n → n ≤ Number.Integer.max →
      Denotes .integer word (.integer n)
  | float : Number.Binary64.parse word.toList = .ok x → Denotes .float word (.float x)

def Kind.Fits (kind : Kind) (word : String) : Prop := ∃ value, kind.Denotes word value

theorem Kind.read_eq_ok_iff {kind : Kind} {word : String} :
    kind.read shown word = .ok value ↔ kind.Denotes word value := by
  cases kind with
  | text =>
    constructor
    · rintro ⟨⟩
      exact .text word
    · rintro ⟨⟩
      rfl
  | path =>
    rw [Kind.read]
    by_cases empty : word = ""
    · subst empty
      refine iff_of_false nofun fun denotes => ?_
      cases denotes with
      | path some => exact some rfl
    · rw [if_neg (by simpa using empty)]
      constructor
      · rintro ⟨⟩
        exact .path empty
      · rintro ⟨⟩
        rfl
  | integer =>
    rw [Kind.read]
    constructor
    · intro read
      split at read
      · rename_i parsed
        cases read
        obtain ⟨written, least, greatest⟩ := Number.Integer.parse_eq_ok_iff.mp parsed
        exact .integer written least greatest
      · contradiction
    · intro denotes
      cases denotes with
      | integer written least greatest =>
        rw [Number.Integer.parse_eq_ok_iff.mpr ⟨written, least, greatest⟩]
  | float =>
    rw [Kind.read]
    constructor
    · intro read
      split at read
      · rename_i parsed
        cases read
        exact .float parsed
      · contradiction
    · intro denotes
      cases denotes with
      | float parsed => rw [parsed]

/-- A word denotes one value of a kind at most. -/
theorem Kind.Denotes.unique {kind : Kind} (denotes : kind.Denotes word value)
    (other : kind.Denotes word value') : value = value' := by
  have first : kind.read "" word = .ok value := read_eq_ok_iff.mpr denotes
  have second : kind.read "" word = .ok value' := read_eq_ok_iff.mpr other
  exact Except.ok.inj (first.symm.trans second)

/-! ### Looking values up -/

/-- Of entries with different names the one of a name is found. -/
theorem find?_name {name : α → String} {entries : List α} (distinct : (entries.map name).Nodup)
    (member : a ∈ entries) : entries.find? (name · == name a) = some a := by
  obtain ⟨other, found⟩ : ∃ other, entries.find? (name · == name a) = some other :=
    Option.isSome_iff_exists.mp (List.find?_isSome.mpr ⟨a, member, beq_self_eq_true (name a)⟩)
  have same : name other = name a := by simpa using List.find?_some found
  rw [found, List.inj_on_of_nodup_map distinct (List.mem_of_find?_eq_some found) member same]

theorem Values.contains_iff {v : Values} : v.contains name = true ↔ name ∈ v.names := by
  simp [contains, names]

theorem Values.get?_of_mem {v : Values} (distinct : v.names.Nodup) (member : (name, value) ∈ v.found) :
    v.get? name = some value := by
  have found := find?_name distinct member
  rw [get?, found]
  rfl

theorem Values.get?_of_not_mem {v : Values} (absent : name ∉ v.names) : v.get? name = none := by
  rw [get?, Option.map_eq_none_iff, List.find?_eq_none]
  intro entry member same
  exact absent (List.mem_map.mpr ⟨entry, member, by simpa using same⟩)

def Values.answers (v : Values) (name : String) : Option String × Option Int × Option Number.Binary64 :=
  (v.text? name, v.integer? name, v.float? name)

/-- Only the getter of its own kind returns a value, and none does where there is no value. -/
def Value.answers : Option Value → Option String × Option Int × Option Number.Binary64
  | none => (none, none, none)
  | some (.text word) => (some word, none, none)
  | some (.integer n) => (none, some n, none)
  | some (.float x) => (none, none, some x)

theorem Values.answers_eq (v : Values) (name : String) : v.answers name = Value.answers (v.get? name) := by
  rw [answers, text?, integer?, float?]
  cases v.get? name with
  | none => rfl
  | some value => cases value <;> rfl

end LineEditor.Options
