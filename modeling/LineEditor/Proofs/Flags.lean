import LineEditor.Options.Read
import LineEditor.Proofs.Descriptors
import Mathlib.Data.List.TakeWhile

/-! Single words that options are given by. One that asks for help ends the reading where an option may
stand, so that no values come of it, whatever stands in front of it and behind. One that names an option
with a value gives the option this value. -/
namespace LineEditor.Options

def helpFlags : List String := ["-h", "--help"]

namespace State

variable {g : Grammar} {s next : State} {word : String}

theorem stopWith_ne_ok (s : State) (stop : Stop) : s.stopWith stop ≠ .ok next := by
  unfold stopWith failing
  cases s.settle <;> nofun

theorem next_flag (apart : g.Apart) (optional : s.literal = false) (flag : word ∈ helpFlags) :
    State.next g s word = s.stopWith .help := by
  simp only [helpFlags, List.mem_cons, List.not_mem_nil, or_false] at flag
  rcases flag with rfl | rfl
  · have free : g.named.find? (·.short == some 'h') = none := by
      simpa using fun o member => (apart o member).2
    have read : State.next g s "-h" = State.short g s 'h' [] := by
      rw [State.next, optional]
      rfl
    rw [read, State.short, free]
    rfl
  · have free : g.named.find? (·.name == "help") = none := by
      simpa using fun o member => (apart o member).1
    have read : State.next g s "--help" = State.long g s "help" none := by
      rw [State.next, optional]
      rfl
    rw [read, State.long, free]
    rfl

theorem next_flag_ne_ok (apart : g.Apart) (optional : s.literal = false) (flag : word ∈ helpFlags) :
    State.next g s word ≠ .ok next := by
  rw [next_flag apart optional flag]
  exact stopWith_ne_ok s .help

/-! ### Only `--` makes the words behind it literal -/

theorem addNamed_literal (added : s.addNamed o text = .ok next) : next.literal = s.literal := by
  unfold addNamed at added
  split at added
  · contradiction
  · obtain ⟨_, -, done⟩ := except_bind_eq_ok_iff.mp added
    cases done
    rfl

theorem settle_literal (settled : s.settle = .ok next) : next.literal = s.literal := by
  unfold settle at settled
  split at settled
  · cases settled
    rfl
  · contradiction
  · exact (addNamed_literal settled : _)
  · obtain ⟨_, -, done⟩ := except_bind_eq_ok_iff.mp settled
    cases done
    rfl

theorem option_literal (given : s.option o value = .ok next) : next.literal = s.literal := by
  cases value with
  | some text =>
    obtain ⟨settled, first, added⟩ := except_bind_eq_ok_iff.mp (except_mapError_eq_ok_iff.mp given)
    rw [addNamed_literal added, settle_literal first]
  | none =>
    obtain ⟨settled, first, done⟩ := except_bind_eq_ok_iff.mp (except_mapError_eq_ok_iff.mp given)
    cases done
    have same : settled.literal = s.literal := settle_literal first
    exact same

theorem positional_literal (placed : s.positional word = .ok next) : next.literal = s.literal := by
  unfold positional at placed
  split at placed
  · obtain ⟨settled, first, done⟩ := except_bind_eq_ok_iff.mp (except_mapError_eq_ok_iff.mp placed)
    cases done
    have same : settled.literal = s.literal := settle_literal first
    exact same
  · contradiction

theorem plainWord_literal (placed : s.plainWord word = .ok next) : next.literal = s.literal := by
  unfold plainWord at placed
  split at placed
  · cases placed
    rfl
  · exact positional_literal placed

theorem long_literal (given : State.long g s name value = .ok next) : next.literal = s.literal := by
  unfold long at given
  split at given
  · exact option_literal given
  · dsimp only at given
    split at given
    · contradiction
    · contradiction
    · exact (stopWith_ne_ok s _ given).elim

theorem short_literal (given : State.short g s letter rest = .ok next) :
    next.literal = s.literal := by
  unfold short at given
  split at given
  · split at given <;> exact option_literal given
  · split at given
    · exact (stopWith_ne_ok s _ given).elim
    · split at given
      · exact (stopWith_ne_ok s _ given).elim
      · contradiction

theorem next_literal (read : State.next g s word = .ok next) (other : word ≠ "--") :
    next.literal = s.literal := by
  unfold State.next at read
  split at read
  · exact positional_literal read
  · split at read
    · rename_i dashes
      exact (other (String.toList_inj.mp dashes)).elim
    · exact long_literal read
    · exact short_literal read
    · exact plainWord_literal read

theorem foldlM_literal {words : List String} (read : words.foldlM (State.next g) s = .ok next)
    (ahead : "--" ∉ words) : next.literal = s.literal := by
  induction words generalizing s with
  | nil =>
    cases read
    rfl
  | cons word words ih =>
    obtain ⟨middle, first, later⟩ := except_bind_eq_ok_iff.mp read
    obtain ⟨other, behind⟩ := List.ne_and_not_mem_of_not_mem_cons ahead
    rw [ih later behind, next_literal first other.symm]

end State

/-- No values come of words with a flag for help in front of which there is no `--`, which alone would make
the flag literal. -/
theorem Grammar.read_flag_ne_ok {g : Grammar} (apart : g.Apart) (front rest : List String)
    (flag : word ∈ helpFlags) (ahead : "--" ∉ front) (values : Values) :
    g.read (front ++ word :: rest) ≠ .ok values := by
  intro read
  obtain ⟨last, all, -⟩ := except_bind_eq_ok_iff.mp read
  rw [List.foldlM_append, except_bind_eq_ok_iff] at all
  obtain ⟨middle, first, later⟩ := all
  obtain ⟨next, stopped, -⟩ := except_bind_eq_ok_iff.mp later
  have optional : middle.literal = false := State.foldlM_literal first ahead
  exact State.next_flag_ne_ok apart optional flag stopped

/-! ### Options by their names -/

namespace State

variable {g : Grammar} {s : State}

theorem passes_equals {name : List Char} (plain : '=' ∉ name) : ∀ c ∈ name, (c != '=') = true := by
  intro c member
  rw [bne_iff_ne]
  rintro rfl
  exact plain member

theorem cutAtEquals_append {name : List Char} (plain : '=' ∉ name) (text : List Char) :
    cutAtEquals (name ++ '=' :: text) = (String.ofList name, some (String.ofList text)) := by
  have letters := passes_equals plain
  simp [cutAtEquals, List.takeWhile_append_of_pos letters, List.dropWhile_append_of_pos letters]

theorem cutAtEquals_plain {name : List Char} (plain : '=' ∉ name) :
    cutAtEquals name = (String.ofList name, none) := by
  have letters := passes_equals plain
  simp [cutAtEquals, List.takeWhile_eq_self_iff.mpr letters, List.dropWhile_eq_nil_iff.mpr letters]

/-- Two dashes with more behind them begin an option. -/
theorem next_dashes (optional : s.literal = false) (named : text ≠ "") :
    State.next g s ("--" ++ text) =
      State.long g s (cutAtEquals text.toList).1 (cutAtEquals text.toList).2 := by
  have word : ("--" ++ text).toList = '-' :: '-' :: text.toList := by simp
  rw [State.next, optional, word]
  cases letters : text.toList with
  | nil => exact (named (String.toList_eq_nil_iff.mp letters)).elim
  | cons first more => rfl

theorem next_attached (g : Grammar) (s : State) (optional : s.literal = false)
    (name text : String) (plain : '=' ∉ name.toList) :
    State.next g s ("--" ++ name ++ "=" ++ text) = State.long g s name (some text) := by
  have word : "--" ++ name ++ "=" ++ text = "--" ++ (name ++ "=" ++ text) := by
    rw [String.append_assoc, String.append_assoc, String.append_assoc]
  have letters : (name ++ "=" ++ text).toList = name.toList ++ '=' :: text.toList := by simp
  have named : name ++ "=" ++ text ≠ "" := by
    intro empty
    simp [empty] at letters
  have cut := cutAtEquals_append plain text.toList
  rw [String.ofList_toList, String.ofList_toList] at cut
  rw [word, next_dashes optional named, letters, cut]

theorem next_longFlag (optional : s.literal = false) (named : name ≠ "") (plain : '=' ∉ name.toList) :
    State.next g s ("--" ++ name) = State.long g s name none := by
  rw [next_dashes optional named, cutAtEquals_plain plain, String.ofList_toList]

end State
end LineEditor.Options
