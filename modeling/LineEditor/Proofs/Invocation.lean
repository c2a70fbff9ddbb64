import LineEditor.Proofs.Registration

/-! Command texts that call any registered command with any arguments. The name and the arguments stand
in quotes, so no character of them means anything to the readers of ranges and words. -/
namespace LineEditor
namespace Words

def escaped (c : Char) : List Char :=
  if c = '"' ∨ c = '\\' then ['\\', c] else [c]

def doubleQuote (text : List Char) : List Char :=
  '"' :: (text.flatMap escaped ++ ['"'])

inductive Quoted (word : String) : List Char → Prop where
  | single : Quoted word (quote word.toList)
  | double : Quoted word (doubleQuote word.toList)

inductive Written : List String → List Char → Prop where
  | last : Quoted word text → Written [word] text
  | more : Quoted word text → gap ≠ [] → Text.allBlank gap = true → Written later rest →
      Written (word :: later) (text ++ (gap ++ rest))

theorem paired_escaped (text : List Char) : Paired (text.flatMap escaped) text := by
  induction text with
  | nil => exact .nil
  | cons c text ih =>
    rw [List.flatMap_cons, escaped]
    by_cases special : c = '"' ∨ c = '\\'
    · rw [if_pos special]
      exact .escaped special ih
    · rw [if_neg special]
      exact .letter (fun quote => special (.inl quote)) (fun escape => special (.inr escape)) ih

variable {word : String} {found : List String} {text gap rest : List Char}

theorem Quoted.spells (quoted : Quoted word text) : Spells text word.toList := by
  cases quoted with
  | single => exact spells_quote word.toList
  | double => exact (Segment.double (paired_escaped word.toList)).spells

theorem read_gap_allBlank (blank : Text.allBlank gap = true) (done : List (List Char)) :
    read .gap [] done (gap ++ rest) = read .gap [] done rest := by
  induction gap with
  | nil => rfl
  | cons c gap ih =>
    rw [Text.allBlank_cons, Bool.and_eq_true] at blank
    rw [List.cons_append, read_gap_blank blank.1, ih blank.2]

theorem Written.read (written : Written found text) (done : List (List Char)) :
    Words.read .gap [] done text = .ok (done.reverse ++ found.map String.toList) := by
  induction written generalizing done with
  | last quoted => exact quoted.spells.read_end done
  | @more word _ gap later rest quoted nonempty blank _ ih =>
    obtain ⟨c, gap, rfl⟩ := List.exists_cons_of_ne_nil nonempty
    rw [Text.allBlank_cons, Bool.and_eq_true] at blank
    rw [List.cons_append, quoted.spells.read_blank blank.1, read_gap_allBlank blank.2, ih,
      List.reverse_cons, List.append_assoc]
    rfl

/-- Quoting is undone by reading, whatever the words are. -/
theorem Written.words_eq (written : Written found text) : words text = .ok found := by
  rw [words, written.read]
  simp [Except.map]

theorem Written.foreign (written : Written found text) : RangeForm.Foreign text := by
  intro c head
  have quote : c = '\'' ∨ c = '"' := by
    cases written with
    | last quoted => cases quoted <;> cases head <;> simp
    | more quoted => cases quoted <;> cases head <;> simp
  rcases quote with rfl | rfl <;> simp [Address.Begins]

end Words

/-! ### Without a range -/

theorem RangeReader.read_of_absent {r : RangeReader} (absent : (r.read text).1 = .ok none) :
    r.read text = (.ok none, r) := by
  obtain ⟨unread, plain⟩ := read_eq_none absent
  unfold read
  simp only [unread, Option.elim]
  split
  · exact ((plain _ rfl).1 rfl).elim
  · exact ((plain _ rfl).2 rfl).elim
  · rfl

variable {registry : Registry} {desk : Desk} {text : List Char}

theorem readRange_of_absent (absent : desk.buffer.range text = .ok none) :
    readRange text desk = ⟨.ok none, desk, []⟩ := by
  have parsed := RangeReader.read_of_absent absent
  simp only [readRange, bind, Action.bind, Action.buffer, parsed]
  rfl

/-- A text without a range reports the call of its command and then does what the command does. -/
theorem executeAt_call (absent : desk.buffer.range text = .ok none)
    (said : readCommand text = .ok line) (found : registry.get? line.name = some c) :
    executeAt registry levels text desk =
      let outcome := c.run registry.catalogue line.arguments desk
      { outcome with events :=
          .commandInvoked (maxDepth - 1 - levels) c.name line.arguments.length desk.buffer.count ::
            outcome.events } := by
  unfold executeAt
  simp only [bind, Action.bind, readRange_of_absent absent, runCommand, said, Action.ofExcept,
    Action.pure, found, Action.buffer, Action.report, List.nil_append, List.singleton_append]

/-- Every registered command can be called with any arguments. In quotes a name and arguments are no
range and are read back as they are, whatever their characters, and the command that is registered
under the name is run on the whole document with exactly these arguments. -/
theorem execute_written (definitions : List Definition) (r : Registry) (c : Command)
    (name : String) (arguments : List String) (text : List Char) (desk : Desk)
    (reached : r.commands = (Registry.new.registerAll definitions).commands)
    (found : r.get? name = some c) (written : Words.Written (name :: arguments) text) :
    desk.buffer.range text = .ok none ∧
      words text = .ok (name :: arguments) ∧
      readCommand text = .ok ⟨name, arguments⟩ ∧
      execute r (String.ofList text) desk =
        let outcome := c.run r.catalogue arguments desk
        { outcome with events :=
            .commandInvoked 0 name arguments.length desk.buffer.count :: outcome.events } := by
  have absent := desk.buffer.range_eq_none_iff.mpr (RangeForm.reads_of_foreign written.foreign)
  have holds := Registry.Holds.new.registerAll definitions
  have named : c.name = name := Registry.name_of_get? found
  have nonempty : name ≠ "" := by
    rintro rfl
    have visible := holds.visible (reached ▸ Registry.mem_of_get? found)
    rw [named] at visible
    contradiction
  have said : readCommand text = .ok ⟨name, arguments⟩ :=
    readCommand_eq_ok_iff.mpr ⟨nonempty, written.words_eq⟩
  refine ⟨absent, written.words_eq, said, ?_⟩
  rw [execute, String.toList_ofList, executeAt_call absent said found, named]
  rfl

/-- A command may be named like a range with a command behind it, and called with any text. -/
theorem execute_written_like_range :
    let name := "2,$ p'"
    let argument := "\"a\\ "
    let text := "'2,$ p'\\''' \t\"\\\"a\\\\ \"".toList
    let echo : Definition := ⟨⟨name, "echo", "Shows its argument."⟩, Commands.textArguments,
      fun _ values => do
        .print ((values.text? "text").getD "")
        return .proceed⟩
    let r := Registry.new.registerAll [echo]
    let desk : Desk := ⟨.ofLines ["x", "y"], ⟨[], []⟩, .unlimited⟩
    ∃ c, r.get? name = some c ∧ Words.Written [name, argument] text ∧
      words text = .ok [name, argument] ∧
      execute r (String.ofList text) desk =
        let outcome := c.run r.catalogue [argument] desk
        { outcome with events := .commandInvoked 0 name 1 2 :: outcome.events } := by
  intro name argument text echo r desk
  have known : (r.get? name).isSome := by decide +kernel
  obtain ⟨c, found⟩ := Option.isSome_iff_exists.mp known
  have gap : [' ', '\t'] ≠ [] := by decide
  have written : Words.Written [name, argument]
      (Words.quote name.toList ++ ([' ', '\t'] ++ Words.doubleQuote argument.toList)) :=
    .more .single gap (by decide) (.last .double)
  have same : Words.quote name.toList ++ ([' ', '\t'] ++ Words.doubleQuote argument.toList) = text := by
    decide +kernel
  rw [same] at written
  obtain ⟨-, read, -, called⟩ := execute_written [echo] r c name [argument] text desk rfl found written
  exact ⟨c, found, written, read, called⟩

end LineEditor
