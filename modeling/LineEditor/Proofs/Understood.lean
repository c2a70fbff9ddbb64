import LineEditor.Proofs.Flags
import LineEditor.Proofs.Values
import Mathlib.Data.List.Forall2

/-! What becomes of the arguments of a call while its words are read: of options that are given as
`--name=value`, of positional values, and of the fallbacks of options that are left out. Each of them is
understood exactly if its word denotes a value of its kind and its name is not known yet. -/
namespace LineEditor.Options

structure Argument where
  name : String
  kind : Kind
  word : String

namespace Argument

def Found (a : Argument) (entry : String × Value) : Prop :=
  entry.1 = a.name ∧ a.kind.Denotes a.word entry.2

def attached (a : Argument) : String :=
  "--" ++ a.name ++ "=" ++ a.word

theorem names_of_found {arguments : List Argument} {entries : List (String × Value)}
    (found : List.Forall₂ Found arguments entries) : entries.map (·.1) = arguments.map (·.name) := by
  induction found with
  | nil => rfl
  | cons here _ ih => rw [List.map_cons, List.map_cons, here.1, ih]

/-- There is something to find for arguments if their words fit. -/
theorem exists_found_iff {arguments : List Argument} :
    (∃ entries, List.Forall₂ Found arguments entries) ↔ ∀ a ∈ arguments, a.kind.Fits a.word := by
  induction arguments with
  | nil => exact iff_of_true ⟨[], .nil⟩ nofun
  | cons a arguments ih =>
    rw [List.forall_mem_cons, ← ih]
    constructor
    · rintro ⟨_, found⟩
      cases found with
      | cons here found => exact ⟨⟨_, here.2⟩, _, found⟩
    · rintro ⟨⟨value, denotes⟩, entries, found⟩
      exact ⟨(a.name, value) :: entries, .cons ⟨rfl, denotes⟩ found⟩

theorem found_append_iff {front back : List Argument} {entries : List (String × Value)} :
    List.Forall₂ Found (front ++ back) entries ↔ ∃ first second, entries = first ++ second ∧
      List.Forall₂ Found front first ∧ List.Forall₂ Found back second := by
  constructor
  · intro found
    refine ⟨entries.take front.length, entries.drop front.length, (List.take_append_drop _ _).symm, ?_, ?_⟩
    · exact (List.forall₂_take_append _ _ _ found.flip).flip
    · exact (List.forall₂_drop_append _ _ _ found.flip).flip
  · rintro ⟨first, second, rfl, ahead, behind⟩
    exact List.rel_append ahead behind

end Argument

def Named.given (o : Named) (word : String) : Argument :=
  ⟨o.name, o.kind, word⟩

def Positional.given (p : Positional) (word : String) : Argument :=
  ⟨p.name, p.kind, word⟩

/-- The argument is given for an option that is declared, and its name can be told from its value. -/
structure Grammar.Declares (g : Grammar) (a : Argument) : Prop where
  plain : '=' ∉ a.name.toList
  named : ∃ o ∈ g.named, a = o.given a.word

/-- Names tell the arguments apart, and no positional value may be left out. -/
structure Grammar.Regular (g : Grammar) : Prop where
  distinct : (g.named.map (·.name) ++ g.positionals.map (·.name)).Nodup
  required : ∀ p ∈ g.positionals, p.required = true

/-- The options of other names that have a fallback, with it. -/
def omitted (names : List String) (named : List Named) : List Argument :=
  named.filterMap fun o => if o.name ∈ names then none else o.fallback.map o.given

def Plain (word : String) : Prop := word.toList.head? = some '-' → word = "-"

/-- The words that give positional values: the values themselves behind `--`, or alone if none of them
looks like an option. -/
inductive Places : List String → List String → Prop where
  | marked (values : List String) : Places ("--" :: values) values
  | plain : (∀ word ∈ values, Plain word) → Places values values

namespace State

variable {g : Grammar} {s t r : State} {a : Argument} {o : Named}

def enter (s : State) (entries : List (String × Value)) : State :=
  { s with values := ⟨s.values.found ++ entries⟩ }

@[simp] theorem enter_nil (s : State) : s.enter [] = s := by simp [enter]

@[simp] theorem enter_enter (s : State) (a b : List (String × Value)) :
    (s.enter a).enter b = s.enter (a ++ b) := by simp [enter]

@[simp] theorem names_enter (s : State) (entries : List (String × Value)) :
    (s.enter entries).values.names = s.values.names ++ entries.map (·.1) := by
  simp [enter, Values.names]

/-! ### Options -/

theorem addNamed_eq_ok_iff : s.addNamed o word = .ok t ↔
    o.name ∉ s.values.names ∧ ∃ entry, (o.given word).Found entry ∧ t = s.enter [entry] := by
  unfold addNamed
  by_cases known : s.values.contains o.name = true
  · rw [if_pos known]
    exact iff_of_false nofun fun added => added.1 (Values.contains_iff.mp known)
  · rw [if_neg known]
    rw [Values.contains_iff] at known
    constructor
    · intro added
      obtain ⟨value, read, done⟩ := except_bind_eq_ok_iff.mp added
      exact ⟨known, (o.name, value), ⟨rfl, Kind.read_eq_ok_iff.mp read⟩, (Except.ok.inj done).symm⟩
    · rintro ⟨-, ⟨name, value⟩, ⟨same, denotes⟩, rfl⟩
      obtain rfl : name = o.name := same
      exact except_bind_eq_ok_iff.mpr ⟨value, Kind.read_eq_ok_iff.mpr denotes, rfl⟩

theorem settle_of_none (settled : s.pending = none) : s.settle = .ok s := by
  simp [settle, settled]

theorem next_attached_eq (regular : g.Regular) (declared : g.Declares a) (settled : s.pending = none)
    (optional : s.literal = false) : ∃ o ∈ g.named, a = o.given a.word ∧
      State.next g s a.attached = failing (s.addNamed o a.word) := by
  obtain ⟨o, member, same⟩ := declared.named
  have name : a.name = o.name := congrArg Argument.name same
  have found := find?_name (List.nodup_append.mp regular.distinct).1 member
  have next := next_attached g s optional a.name a.word declared.plain
  refine ⟨o, member, same, ?_⟩
  rw [Argument.attached, next, long, name, found]
  simp only [option, settle_of_none settled]
  rfl

theorem next_attached_eq_ok_iff (regular : g.Regular) (declared : g.Declares a)
    (settled : s.pending = none) (optional : s.literal = false) :
    State.next g s a.attached = .ok t ↔
      a.name ∉ s.values.names ∧ ∃ entry, a.Found entry ∧ t = s.enter [entry] := by
  obtain ⟨o, -, same, next⟩ := next_attached_eq regular declared settled optional
  rw [next, failing, except_mapError_eq_ok_iff, addNamed_eq_ok_iff, ← same]
  have name : a.name = o.name := congrArg Argument.name same
  rw [name]

/-- Options that are given one after the other are understood if none is known before. -/
theorem foldlM_attached_eq_ok_iff (regular : g.Regular) {options : List Argument}
    (declared : ∀ a ∈ options, g.Declares a) (settled : s.pending = none) (optional : s.literal = false) :
    (options.map Argument.attached).foldlM (State.next g) s = .ok t ↔
      (options.map (·.name)).Nodup ∧ (∀ a ∈ options, a.name ∉ s.values.names) ∧
        ∃ entries, List.Forall₂ Argument.Found options entries ∧ t = s.enter entries := by
  induction options generalizing s with
  | nil =>
    constructor
    · rintro ⟨⟩
      exact ⟨List.nodup_nil, nofun, [], .nil, (enter_nil _).symm⟩
    · rintro ⟨-, -, entries, ⟨⟩, rfl⟩
      rw [enter_nil]
      rfl
  | cons a options ih =>
    obtain ⟨here, later⟩ := List.forall_mem_cons.mp declared
    have first (t : State) := next_attached_eq_ok_iff (t := t) regular here settled optional
    have rest (entry : String × Value) := ih later (show (s.enter [entry]).pending = none from settled)
      (show (s.enter [entry]).literal = false from optional)
    rw [List.map_cons, List.foldlM_cons, except_bind_eq_ok_iff]
    constructor
    · rintro ⟨middle, step, run⟩
      obtain ⟨fresh, entry, found, rfl⟩ := (first middle).mp step
      obtain ⟨distinct, apart, entries, all, rfl⟩ := (rest entry).mp run
      simp only [names_enter, List.map_cons, List.map_nil, List.mem_append, List.mem_singleton, not_or,
        found.1] at apart
      refine ⟨?_, ?_, entry :: entries, .cons found all, by simp⟩
      · rw [List.map_cons, List.nodup_cons]
        refine ⟨fun member => ?_, distinct⟩
        obtain ⟨b, inside, same⟩ := List.mem_map.mp member
        exact (apart b inside).2 same
      · exact List.forall_mem_cons.mpr ⟨fresh, fun b inside => (apart b inside).1⟩
    · rintro ⟨distinct, apart, all, found, rfl⟩
      obtain ⟨fresh, apart⟩ := List.forall_mem_cons.mp apart
      rw [List.map_cons, List.nodup_cons] at distinct
      cases found with
      | @cons _ entry _ entries found all =>
        refine ⟨s.enter [entry], (first _).mpr ⟨fresh, entry, found, rfl⟩, (rest entry).mpr ⟨distinct.2, ?_,
          entries, all, by simp⟩⟩
        intro b inside known
        simp only [names_enter, List.map_cons, List.map_nil, List.mem_append, List.mem_singleton,
          found.1] at known
        rcases known with old | same
        · exact apart b inside old
        · exact distinct.1 (List.mem_map.mpr ⟨b, inside, same⟩)

/-! ### Positional values -/

/-- No option waits for its value. -/
def Closed (s : State) : Prop := ∀ o, s.pending ≠ some (.open o)

theorem settle_spec (settled : s.settle = .ok t) : t.pending = none ∧ t.awaited = s.awaited := by
  unfold settle at settled
  split at settled
  · rename_i none
    cases settled
    exact ⟨none, rfl⟩
  · contradiction
  · obtain ⟨-, entry, -, rfl⟩ := addNamed_eq_ok_iff.mp settled
    exact ⟨rfl, rfl⟩
  · obtain ⟨_, -, done⟩ := except_bind_eq_ok_iff.mp settled
    cases done
    exact ⟨rfl, rfl⟩

theorem next_placed (closed : s.Closed) (placed : s.literal = true ∨ Plain word) :
    State.next g s word = s.positional word := by
  unfold State.next
  cases literal : s.literal with
  | true => rfl
  | false =>
    have plain : Plain word := placed.resolve_left (by rw [literal]; exact Bool.false_ne_true)
    have alone {rest : List Char} (chars : word.toList = '-' :: rest) : rest = [] := by
      have dash := plain (by rw [chars]; rfl)
      rw [dash] at chars
      exact (List.cons.inj chars).2.symm
    simp only [Bool.false_eq_true, if_false]
    split
    · rename_i chars
      exact absurd (alone chars) (by simp)
    · rename_i chars
      exact absurd (alone chars) (by simp)
    · rename_i chars
      exact absurd (alone chars) (by simp)
    · unfold plainWord
      split
      · rename_i waiting _
        exact (closed _ waiting).elim
      · rfl

/-- The next positional value is understood behind what is pending. -/
theorem positional_eq_ok_iff {word : String} : s.positional word = .ok t ↔
    ∃ p awaited r, s.awaited = p :: awaited ∧ s.settle = .ok r ∧
      t = { r with pending := some (.positional p word), awaited } := by
  unfold positional
  constructor
  · intro placed
    split at placed
    · rename_i p awaited first
      obtain ⟨r, settled, done⟩ := except_bind_eq_ok_iff.mp (except_mapError_eq_ok_iff.mp placed)
      exact ⟨p, awaited, r, first, settled, (Except.ok.inj done).symm⟩
    · contradiction
  · rintro ⟨p, awaited, r, first, settled, rfl⟩
    rw [first]
    exact except_mapError_eq_ok_iff.mpr (except_bind_eq_ok_iff.mpr ⟨r, settled, rfl⟩)

theorem settle_positional_eq_ok_iff (pending : s.pending = some (.positional p word)) :
    s.settle = .ok t ↔ ∃ entry, (p.given word).Found entry ∧
      t = { s.enter [entry] with pending := none } := by
  unfold settle
  rw [pending]
  constructor
  · intro settled
    obtain ⟨value, read, done⟩ := except_bind_eq_ok_iff.mp settled
    exact ⟨(p.name, value), ⟨rfl, Kind.read_eq_ok_iff.mp read⟩, (Except.ok.inj done).symm⟩
  · rintro ⟨⟨name, value⟩, ⟨same, denotes⟩, rfl⟩
    obtain rfl : name = p.name := same
    exact except_bind_eq_ok_iff.mpr ⟨value, Kind.read_eq_ok_iff.mpr denotes, rfl⟩

/-- Values that stand one behind the other are understood in the order in which they are awaited. The last
one is still pending, so the statement is about the state in which it is settled. -/
theorem foldlM_placed_iff {values : List String} (closed : s.Closed)
    (placed : ∀ word ∈ values, s.literal = true ∨ Plain word) :
    (∃ t, values.foldlM (State.next g) s = .ok t ∧ t.settle = .ok r) ↔
      values.length ≤ s.awaited.length ∧ ∃ t entries, s.settle = .ok t ∧
        List.Forall₂ Argument.Found (List.zipWith Positional.given s.awaited values) entries ∧
        r = { t.enter entries with awaited := s.awaited.drop values.length } := by
  induction values generalizing s with
  | nil =>
    have whole {t : State} (settled : s.settle = .ok t) :
        { t.enter [] with awaited := s.awaited.drop 0 } = t := by
      rw [enter_nil, List.drop_zero, ← (settle_spec settled).2]
    constructor
    · rintro ⟨t, same, settled⟩
      cases same
      exact ⟨Nat.zero_le _, r, [], settled, by simp, (whole settled).symm⟩
    · rintro ⟨-, t, entries, settled, found, rfl⟩
      rw [List.zipWith_nil_right, List.forall₂_nil_left_iff] at found
      subst found
      exact ⟨s, rfl, settled.trans (congrArg Except.ok (whole settled).symm)⟩
  | cons word values ih =>
    obtain ⟨here, later⟩ := List.forall_mem_cons.mp placed
    have next := next_placed (g := g) closed here
    have behind (p : Positional) (awaited : List Positional) {t : State} (done : s.settle = .ok t) :
        (∃ last, values.foldlM (State.next g) { t with pending := some (.positional p word), awaited } =
            .ok last ∧ last.settle = .ok r) ↔
          values.length ≤ awaited.length ∧ ∃ entry entries, (p.given word).Found entry ∧
            List.Forall₂ Argument.Found (List.zipWith Positional.given awaited values) entries ∧
            r = { t.enter (entry :: entries) with awaited := awaited.drop values.length } := by
      have literal : t.literal = s.literal := settle_literal done
      have settled : t.pending = none := (settle_spec done).1
      have closed : Closed { t with pending := some (.positional p word), awaited } := by
        intro o waiting
        cases waiting
      rw [ih closed (fun w inside => literal ▸ later w inside)]
      refine and_congr_right fun _ => ⟨?_, ?_⟩
      · rintro ⟨_, entries, first, found, rfl⟩
        obtain ⟨entry, given, rfl⟩ := (settle_positional_eq_ok_iff rfl).mp first
        exact ⟨entry, entries, given, found, by simp [enter, settled]⟩
      · rintro ⟨entry, entries, given, found, rfl⟩
        exact ⟨_, entries, (settle_positional_eq_ok_iff rfl).mpr ⟨entry, given, rfl⟩, found,
          by simp [enter, settled]⟩
    constructor
    · rintro ⟨last, run, settled⟩
      obtain ⟨middle, first, run⟩ := except_bind_eq_ok_iff.mp run
      rw [next] at first
      obtain ⟨p, awaited, t, begins, done, rfl⟩ := positional_eq_ok_iff.mp first
      obtain ⟨enough, entry, entries, given, found, rfl⟩ := (behind p awaited done).mp ⟨last, run, settled⟩
      rw [begins]
      exact ⟨Nat.succ_le_succ enough, t, entry :: entries, done, .cons given found, rfl⟩
    · rintro ⟨enough, t, entries, done, found, result⟩
      cases begins : s.awaited with
      | nil => simp [begins] at enough
      | cons p awaited =>
        rw [begins] at enough found result
        rw [List.zipWith_cons_cons] at found
        cases found with
        | @cons _ entry _ entries given found =>
          obtain ⟨last, run, settled⟩ := (behind p awaited done).mpr
            ⟨Nat.le_of_succ_le_succ enough, entry, entries, given, found, result⟩
          have first : State.next g s word =
              .ok { t with pending := some (.positional p word), awaited } :=
            next.trans (positional_eq_ok_iff.mpr ⟨p, awaited, t, begins, done, rfl⟩)
          exact ⟨last, except_bind_eq_ok_iff.mpr ⟨_, first, run⟩, settled⟩

/-! ### What is left to do when the words have ended -/

variable {named : List Named}

theorem omitted_congr {names names' : List String}
    (alike : ∀ o ∈ named, o.name ∈ names ↔ o.name ∈ names') : omitted names named = omitted names' named :=
  List.filterMap_congr fun o member => by simp only [alike o member]

/-- Of options with fallbacks those that are not known yet are understood by them. -/
theorem addFallbacks_eq_ok_iff (distinct : (named.map (·.name)).Nodup) :
    s.addFallbacks named = .ok t ↔
      ∃ entries, List.Forall₂ Argument.Found (omitted s.values.names named) entries ∧
        t = s.enter entries := by
  induction named generalizing s with
  | nil =>
    constructor
    · rintro ⟨⟩
      exact ⟨[], .nil, (enter_nil _).symm⟩
    · rintro ⟨entries, ⟨⟩, rfl⟩
      rw [enter_nil]
      rfl
  | cons o named ih =>
    rw [List.map_cons, List.nodup_cons] at distinct
    unfold addFallbacks
    cases fallback : o.fallback with
    | none =>
      have same : omitted s.values.names (o :: named) = omitted s.values.names named := by
        simp [omitted, fallback]
      rw [same]
      exact ih distinct.2
    | some word =>
      by_cases known : o.name ∈ s.values.names
      · have same : omitted s.values.names (o :: named) = omitted s.values.names named := by
          simp [omitted, known]
        dsimp only
        rw [same, if_pos (Values.contains_iff.mpr known)]
        exact ih distinct.2
      · have first : omitted s.values.names (o :: named) =
            o.given word :: omitted s.values.names named := by
          simp [omitted, known, fallback]
        have later (entry : String × Value) (found : (o.given word).Found entry) :
            omitted (s.enter [entry]).values.names named = omitted s.values.names named := by
          refine omitted_congr fun other member => ?_
          have apart : other.name ≠ o.name := fun same =>
            distinct.1 (List.mem_map.mpr ⟨other, member, same⟩)
          have name : entry.1 = o.name := found.1
          simp [name, apart]
        dsimp only
        rw [if_neg (mt Values.contains_iff.mp known), first]
        constructor
        · intro added
          obtain ⟨middle, here, rest⟩ := except_bind_eq_ok_iff.mp added
          obtain ⟨-, entry, found, rfl⟩ := addNamed_eq_ok_iff.mp here
          obtain ⟨entries, all, rfl⟩ := (ih distinct.2).mp rest
          rw [later entry found] at all
          exact ⟨entry :: entries, .cons found all, by simp⟩
        · rintro ⟨entries, found, rfl⟩
          cases found with
          | @cons _ entry _ entries found all =>
            rw [← later entry found] at all
            exact except_bind_eq_ok_iff.mpr ⟨s.enter [entry],
              addNamed_eq_ok_iff.mpr ⟨known, entry, found, rfl⟩,
              (ih distinct.2).mpr ⟨entries, all, by simp⟩⟩

/-- Fallbacks are refused for one that denotes no value of its kind. -/
theorem addFallbacks_eq_error (refused : s.addFallbacks named = .error e) :
    ∃ o ∈ named, ∃ word, o.fallback = some word ∧ o.kind.read o.shown word = .error e := by
  induction named generalizing s with
  | nil => contradiction
  | cons o named ih =>
    have later {s : State} (refused : s.addFallbacks named = .error e) :
        ∃ other ∈ o :: named, ∃ word, other.fallback = some word ∧
          other.kind.read other.shown word = .error e := by
      obtain ⟨other, member, found⟩ := ih refused
      exact ⟨other, List.mem_cons_of_mem o member, found⟩
    unfold addFallbacks at refused
    split at refused
    · rename_i word fallback
      split at refused
      · exact later refused
      · rename_i unknown
        unfold addNamed at refused
        rw [if_neg unknown] at refused
        cases read : o.kind.read o.shown word with
        | error e' =>
          rw [read] at refused
          cases refused
          exact ⟨o, List.mem_cons_self, word, fallback, read⟩
        | ok value =>
          rw [read] at refused
          exact later refused
    · exact later refused

theorem finish_eq_ok_iff (distinct : (g.named.map (·.name)).Nodup) : s.finish g = .ok found ↔
    ∃ r entries, s.settle = .ok r ∧ List.Forall₂ Argument.Found (omitted r.values.names g.named) entries ∧
      found = ⟨r.values.found ++ entries⟩ ∧
      ∀ p ∈ g.positionals, p.required = true → p.name ∈ found.names := by
  have complete (v : Values) : (g.positionals.any fun p => p.required && !v.contains p.name) = false ↔
      ∀ p ∈ g.positionals, p.required = true → p.name ∈ v.names := by
    simp [← Values.contains_iff]
  unfold finish
  constructor
  · intro finished
    obtain ⟨r, settled, finished⟩ := except_bind_eq_ok_iff.mp finished
    obtain ⟨t, added, checked⟩ := except_bind_eq_ok_iff.mp finished
    obtain ⟨entries, all, rfl⟩ := (addFallbacks_eq_ok_iff distinct).mp added
    split at checked
    · contradiction
    · rename_i lacking
      cases checked
      exact ⟨r, entries, settled, all, rfl, (complete _).mp (by simpa using lacking)⟩
  · rintro ⟨r, entries, settled, all, rfl, whole⟩
    refine except_bind_eq_ok_iff.mpr ⟨r, settled, except_bind_eq_ok_iff.mpr
      ⟨r.enter entries, (addFallbacks_eq_ok_iff distinct).mpr ⟨entries, all, rfl⟩, ?_⟩⟩
    rw [if_neg (by rw [Bool.not_eq_true]; exact (complete _).mpr whole)]
    rfl

theorem foldlM_values_iff {values : List String} (settled : s.pending = none)
    (placed : ∀ word ∈ values, s.literal = true ∨ Plain word) :
    (∃ t r, values.foldlM (State.next g) s = .ok t ∧ t.settle = .ok r ∧ r.values = v) ↔
      values.length ≤ s.awaited.length ∧ ∃ entries,
        List.Forall₂ Argument.Found (List.zipWith Positional.given s.awaited values) entries ∧
        v = ⟨s.values.found ++ entries⟩ := by
  have closed : s.Closed := by
    intro o waiting
    rw [settled] at waiting
    contradiction
  constructor
  · rintro ⟨t, r, run, done, rfl⟩
    obtain ⟨enough, start, entries, same, found, rfl⟩ := (foldlM_placed_iff closed placed).mp ⟨t, run, done⟩
    rw [settle_of_none settled] at same
    cases same
    exact ⟨enough, entries, found, rfl⟩
  · rintro ⟨enough, entries, found, rfl⟩
    obtain ⟨t, run, done⟩ := (foldlM_placed_iff (g := g) closed placed).mpr
      ⟨enough, s, entries, settle_of_none settled, found, rfl⟩
    exact ⟨t, _, run, done, rfl⟩

theorem foldlM_marked (optional : s.literal = false) (values : List String) :
    ("--" :: values).foldlM (State.next g) s =
      values.foldlM (State.next g) { s with literal := true } := by
  have marks : State.next g s "--" = .ok { s with literal := true } := by
    rw [State.next, optional]
    rfl
  rw [List.foldlM_cons, marks]
  rfl

/-- The words of positional values, in whichever way they are given, add these values to what is known. -/
theorem foldlM_places_iff {words values : List String} (places : Places words values)
    (settled : s.pending = none) (optional : s.literal = false) :
    (∃ t r, words.foldlM (State.next g) s = .ok t ∧ t.settle = .ok r ∧ r.values = v) ↔
      values.length ≤ s.awaited.length ∧ ∃ entries,
        List.Forall₂ Argument.Found (List.zipWith Positional.given s.awaited values) entries ∧
        v = ⟨s.values.found ++ entries⟩ := by
  cases places with
  | plain plain => exact foldlM_values_iff settled fun word member => .inr (plain word member)
  | marked values =>
    have settled : ({ s with literal := true } : State).pending = none := settled
    rw [foldlM_marked optional]
    exact foldlM_values_iff settled fun _ _ => .inl rfl

end State

end LineEditor.Options
