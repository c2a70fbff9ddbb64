import LineEditor.Proofs.Looking

/-! How many ranges a text may hold. Ranges with nothing behind them may be as many as the limit says, but
a command needs a level of its own, so that it can stand behind one range less. -/
namespace LineEditor
open LineEditor.Action (effect FailsOnly)

/-! ### Chains of ranges -/

namespace Nested

variable {b inner : Buffer} {text command : List Char} {ranges front back : List ParsedRange}

/-- Behind some of its ranges a text goes on with the others. -/
theorem split (nested : Nested b text (front ++ back) inner command) :
    ∃ middle rest, Nested b text front middle rest ∧ Nested middle rest back inner command := by
  induction front generalizing b text with
  | nil => exact ⟨b, text, .command, nested⟩
  | cons p front ih =>
    obtain ⟨slice, parsed, cut, further⟩ := nested.first
    obtain ⟨middle, rest, before, behind⟩ := ih further
    exact ⟨middle, rest, .range parsed cut before, behind⟩

theorem nonblank_of_ranged (nested : Nested b text ranges inner command) (ranged : ranges ≠ []) :
    Text.allBlank text = false := by
  cases nested with
  | command => contradiction
  | range parsed _ _ => exact Buffer.nonblank_of_range parsed

end Nested

variable {registry : Registry} {desk : Desk} {text command : List Char} {inner : Buffer}
  {ranges : List ParsedRange} {levels : Nat}

/-- The ranges in front fill the levels, and what they leave over is not blank: it begins with one more. -/
theorem effect_executeAt_deeper (nested : Nested desk.buffer text ranges inner command)
    (many : levels + 1 < ranges.length) :
    effect (executeAt registry levels text) desk = (.error .nestingTooDeep, desk.settled text) := by
  have whole : ranges.take (levels + 1) ++ ranges.drop (levels + 1) = ranges := List.take_append_drop _ _
  rw [← whole] at nested
  obtain ⟨middle, rest, before, behind⟩ := nested.split
  have filled : levels < (ranges.take (levels + 1)).length := by
    rw [List.length_take]
    omega
  have left : ranges.drop (levels + 1) ≠ [] := by
    rw [Ne, List.drop_eq_nil_iff]
    omega
  exact effect_executeAt_tooMany before filled (behind.nonblank_of_ranged left)

/-! ### Why the editor's own commands fail -/

def CommandError.OfCommand : CommandError → Prop
  | .arguments _ _ | .noFilename | .io _ _ | .output _ => True
  | _ => False

namespace Commands

theorem failsOnly_textHandler (name : String) (f : Buffer → List String → Buffer)
    (catalogue : Catalogue) (values : Options.Values) :
    FailsOnly CommandError.OfCommand (textHandler name f catalogue values) := by
  intro desk e failed
  rw [effect_textHandler] at failed
  split at failed
  · cases failed
    trivial
  · contradiction

theorem failsOnly_read (catalogue : Catalogue) (values : Options.Values) :
    FailsOnly CommandError.OfCommand (read.handler catalogue values) := by
  intro desk e failed
  rw [effect_read] at failed
  split at failed
  · cases failed
    trivial
  · split at failed
    · cases failed
      trivial
    · contradiction

theorem failsOnly_write (catalogue : Catalogue) (values : Options.Values) :
    FailsOnly CommandError.OfCommand (write.handler catalogue values) := by
  intro desk e failed
  rw [effect_write] at failed
  split at failed
  · cases failed
    trivial
  · split at failed
    · cases failed
      trivial
    · contradiction

theorem failsOnly_of_mem_all (member : d ∈ all) (catalogue : Catalogue) (values : Options.Values) :
    FailsOnly CommandError.OfCommand (d.handler catalogue values) := by
  simp only [all, List.mem_cons, List.not_mem_nil, or_false] at member
  rcases member with rfl | rfl | rfl | rfl | rfl | rfl | rfl | rfl | rfl
  · exact failsOnly_textHandler _ _ catalogue values
  · exact failsOnly_textHandler _ _ catalogue values
  · exact failsOnly_textHandler _ _ catalogue values
  · intro desk e failed
    cases failed
  · exact (print_prints catalogue values).failsOnly trivial
  · exact (number_prints catalogue values).failsOnly trivial
  · exact failsOnly_read catalogue values
  · exact failsOnly_write catalogue values
  · intro desk e failed
    cases failed

end Commands

theorem Registry.builtin_failsOnly (member : c ∈ builtin.commands) (catalogue : Catalogue)
    (values : Options.Values) : FailsOnly CommandError.OfCommand (c.handler catalogue values) := by
  rcases builtin_command member with rfl | ⟨d, isBuiltin, -, same⟩
  · exact (help_prints catalogue values).failsOnly trivial
  · rw [same]
    exact Commands.failsOnly_of_mem_all isBuiltin catalogue values

theorem failsOnly_usage (usage : String) :
    FailsOnly CommandError.OfCommand (do
      Action.print usage
      return Flow.proceed) :=
  (prints_usage usage).failsOnly trivial

def Registry.ReadsOwn (registry : Registry) (command : List Char) : Prop :=
  ∀ line, readCommand command = .ok line →
    ∃ c ∈ builtin.commands, registry.get? line.name = some c

/-- Neither one of the editor's own commands nor the absence of a command is a matter of depth. -/
theorem effect_runCommand_ne_tooDeep (known : registry.ReadsOwn command) (desk : Desk) :
    (effect (runCommand registry 0 command) desk).1 ≠ .error .nestingTooDeep := by
  intro failed
  generalize ran : effect (runCommand registry 0 command) desk = outcome at failed
  have run := runsCommand_runCommand registry 0 command desk
  rw [ran] at run
  cases run with
  | unread unread =>
    cases failed
    rcases readCommand_error unread with same | ⟨e, same⟩ <;> cases same
  | unknown _ _ => cases failed
  | refused _ _ _ => cases failed
  | usage _ _ _ =>
    exact failsOnly_usage _ _ _ failed
  | handled said found _ =>
    obtain ⟨c, member, own⟩ := known _ said
    obtain rfl := Option.some.inj (found.symm.trans own)
    exact Registry.builtin_failsOnly member _ _ _ _ failed

/-! ### The limit -/

theorem afterNested_result (desk : Desk) (range : LineRange)
    (outcome : Except CommandError Flow × Desk) : (afterNested desk range outcome).1 = outcome.1 := by
  obtain ⟨result, left⟩ := outcome
  cases result <;> rfl

theorem Desk.shown_ne_tooDeep (desk : Desk) (text : String) (flow : Flow) :
    (desk.shown text flow).1 ≠ .error .nestingTooDeep := by
  unfold Desk.shown
  dsimp only
  split <;> simp

/-- The number of ranges that may be nested at this many levels in front of this text. -/
def roomFor (levels : Nat) (command : List Char) : Nat :=
  if Text.allBlank command then levels + 1 else levels

theorem effect_executeAt_over (nested : Nested desk.buffer text ranges inner command)
    (exceeded : roomFor levels command < ranges.length) :
    effect (executeAt registry levels text) desk = (.error .nestingTooDeep, desk.settled text) := by
  unfold roomFor at exceeded
  split at exceeded
  · exact effect_executeAt_deeper nested exceeded
  · rename_i nonblank
    exact effect_executeAt_tooMany nested exceeded (Bool.not_eq_true _ ▸ nonblank)

/-- A command is run a level further in than its last range, and blanks are left to that range. -/
theorem effect_executeAt_within (nested : Nested desk.buffer text ranges inner command)
    (valid : desk.buffer.Valid) (few : ranges.length ≤ roomFor levels command)
    (plain : inner.range command = .ok none) (known : registry.ReadsOwn command) :
    (effect (executeAt registry levels text) desk).1 ≠ .error .nestingTooDeep := by
  cases blank : Text.allBlank command with
  | false =>
    rw [roomFor, blank, if_neg Bool.false_ne_true] at few
    rcases effect_executeAt_lines nested valid few blank plain with ⟨-, -, alone⟩ | ⟨range, -, behind⟩
    · rw [alone]
      exact effect_runCommand_ne_tooDeep known _
    · rw [behind, afterNested_result]
      exact effect_runCommand_ne_tooDeep known _
  | true =>
    rw [roomFor, blank, if_pos rfl] at few
    cases ranges with
    | nil =>
      cases nested
      rw [effect_executeAt_command plain]
      exact effect_runCommand_ne_tooDeep known _
    | cons p later =>
      rw [effect_executeAt_bare nested valid (List.cons_ne_nil p later) few blank]
      exact Desk.shown_ne_tooDeep _ _ _

/-- The text says nothing, or it names one of the editor's own commands. -/
def OwnOrBlank (command : List Char) : Prop :=
  Text.allBlank command = true ∨
    ∃ line c, readCommand command = .ok line ∧ Registry.builtin.get? line.name = some c

theorem OwnOrBlank.range (own : OwnOrBlank command) (b : Buffer) : b.range command = .ok none := by
  rcases own with blank | ⟨line, c, said, found⟩
  · exact b.range_eq_none_iff.mpr (RangeForm.reads_of_foreign (RangeForm.foreign_of_allBlank blank))
  · have foreign : ∀ c ∈ Registry.builtin.commands, RangeForm.foreign? c.name.toList = true := by
      decide +kernel
    have named := foreign c (Registry.mem_of_get? found)
    rw [Registry.name_of_get? found] at named
    exact b.range_of_readCommand said named

theorem OwnOrBlank.known (own : OwnOrBlank command)
    (builtin : registry.commands = (Registry.builtin.registerAll more).commands) :
    registry.ReadsOwn command := by
  intro line said
  rcases own with blank | ⟨same, c, saidSame, found⟩
  · rw [nonblank_of_readCommand said] at blank
    contradiction
  · obtain rfl : line = same := Except.ok.inj (said.symm.trans saidSame)
    exact ⟨c, Registry.mem_of_get? found, Registry.get?_of_builtin builtin found⟩

/-- Every dot is a range in a document of one line, which is its own current line. -/
theorem nested_dots (n : Nat) (foreign : RangeForm.foreign? command = true) :
    ∃ ranges, ranges.length = n ∧
      Nested (.ofLines ["a"]) (List.replicate n '.' ++ command) ranges (.ofLines ["a"]) command := by
  induction n with
  | zero => exact ⟨[], rfl, .command⟩
  | succ n ih =>
    obtain ⟨ranges, count, nested⟩ := ih
    have behind : RangeForm.NoOperator (List.replicate n '.' ++ command) := by
      cases n with
      | zero => exact fun c head => (RangeForm.foreign_of_foreign? foreign c head).2.2
      | succ n =>
        intro c head
        obtain rfl : '.' = c := Option.some.inj head
        decide
    have reads := RangeForm.Reads.line .here (.some .here) behind
    have parsed := (Buffer.ofLines ["a"]).range_of_reads (by decide) (by decide) reads
    exact ⟨_ :: ranges, by rw [List.length_cons, count], .range parsed rfl nested⟩

/-- Ranges are too many if there are more than 64, and in front of a command already if there are 64. Then
nothing has been shown or stored, and in the document no more than a `;` behind its first address has
moved the current line. -/
theorem execute_tooDeep_iff (more : List Definition) (width : Nat) (desk : Desk) (text : String)
    (ranges : List ParsedRange) (inner : Buffer) (command : List Char) (valid : desk.buffer.Valid)
    (nested : Nested desk.buffer text.toList ranges inner command) (own : OwnOrBlank command) :
    let registry := { Registry.builtin.registerAll more with numberWidth := width }
    let outcome := effect (execute registry text) desk
    let limit := if Text.allBlank command then 64 else 63
    let cursor := (ranges.head?.bind (·.moved)).or desk.buffer.cursor
    (outcome.1 = .error .nestingTooDeep ↔ limit < ranges.length) ∧
    (outcome.1 = .error .nestingTooDeep →
      outcome.2 = { desk with buffer := { desk.buffer with cursor } }) ∧
    CommandError.nestingTooDeep.message = "ranges nested more than 64 deep" := by
  intro registry outcome limit cursor
  have settled : desk.settled text.toList = { desk with buffer := { desk.buffer with cursor } } := by
    rw [Desk.settled, nested.cursorAfter valid (.inl (own.range inner))]
  rcases Nat.lt_or_ge limit ranges.length with exceeded | few
  · have failed : outcome = (.error .nestingTooDeep, desk.settled text.toList) :=
      effect_executeAt_over nested exceeded
    rw [failed]
    exact ⟨⟨fun _ => exceeded, fun _ => rfl⟩, fun _ => settled, rfl⟩
  · have done : outcome.1 ≠ .error .nestingTooDeep :=
      effect_executeAt_within nested valid few (own.range inner) (own.known rfl)
    exact ⟨⟨fun failed => (done failed).elim, fun exceeded => (Nat.not_lt.mpr few exceeded).elim⟩,
      fun failed => (done failed).elim, rfl⟩

/-- A range that moves the current line and 63 more are too many in front of `d`, but not with a blank
behind them. -/
theorem execute_tooDeep_iff_dots :
    let desk : Desk := ⟨.ofLines ["a", "b"], ⟨[], []⟩, .unlimited⟩
    let registry := { Registry.builtin.registerAll [] with numberWidth := 6 }
    let text (command : List Char) := "1;1".toList ++ (List.replicate 63 '.' ++ command)
    effect (execute registry (String.ofList (text ['d']))) desk =
        (.error .nestingTooDeep, { desk with buffer := { desk.buffer with cursor := some 0 } }) ∧
      (effect (execute registry (String.ofList (text [' ']))) desk).1 ≠ .error .nestingTooDeep := by
  intro desk registry text
  have valid : desk.buffer.Valid := by decide
  have behind (command : List Char) (foreign : RangeForm.foreign? command = true)
      (parsed : desk.buffer.range (text command) =
        .ok (some ⟨List.replicate 63 '.' ++ command, ⟨0, 1⟩, some 0⟩)) :
      ∃ later, later.length = 63 ∧ Nested desk.buffer (String.ofList (text command)).toList
        (⟨List.replicate 63 '.' ++ command, ⟨0, 1⟩, some 0⟩ :: later) (.ofLines ["a"]) command := by
    obtain ⟨later, count, nested⟩ := nested_dots 63 foreign
    exact ⟨later, count, by rw [String.toList_ofList]; exact .range parsed rfl nested⟩
  have delete : OwnOrBlank ['d'] := by
    obtain ⟨c, found, -⟩ := Registry.builtin_get? (d := Commands.delete) (by simp [Commands.all])
    exact .inr ⟨⟨"d", []⟩, c, by decide +kernel, found⟩
  constructor
  · obtain ⟨later, count, nested⟩ := behind ['d'] (by decide +kernel) (by decide +kernel)
    obtain ⟨fails, left, -⟩ := execute_tooDeep_iff [] 6 desk _ _ _ ['d'] valid nested delete
    have failed := fails.mpr (by rw [List.length_cons, count]; decide +kernel)
    exact Prod.ext failed (left failed)
  · obtain ⟨later, count, nested⟩ := behind [' '] (by decide +kernel) (by decide +kernel)
    obtain ⟨fails, -, -⟩ := execute_tooDeep_iff [] 6 desk _ _ _ [' '] valid nested (.inl rfl)
    have few : ¬ (if Text.allBlank [' '] then 64 else 63) < (63 : Nat) + 1 := by decide +kernel
    rw [← count] at few
    exact mt fails.mp few

/-- A command may not stand behind as many ranges as the limit says: 64 are not more than 64. -/
theorem not_tooDeep_iff_of_command :
    ∃ ranges, Nested (.ofLines ["a"]) (List.replicate 64 '.' ++ ['p']) ranges (.ofLines ["a"]) ['p'] ∧
      ¬ ((effect (execute .builtin (String.ofList (List.replicate 64 '.' ++ ['p'])))
          ⟨.ofLines ["a"], ⟨[], []⟩, .unlimited⟩).1 = .error .nestingTooDeep ↔ 64 < ranges.length) := by
  have foreign : RangeForm.foreign? ['p'] = true := by decide +kernel
  obtain ⟨ranges, count, nested⟩ := nested_dots 64 foreign
  have failed : (effect (execute .builtin (String.ofList (List.replicate 64 '.' ++ ['p'])))
      ⟨.ofLines ["a"], ⟨[], []⟩, .unlimited⟩).1 = .error .nestingTooDeep := by decide +kernel
  refine ⟨ranges, nested, fun same => ?_⟩
  have more := same.mp failed
  omega

end LineEditor
