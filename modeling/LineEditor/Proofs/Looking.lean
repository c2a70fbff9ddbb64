import LineEditor.Proofs.Builtin
import LineEditor.Proofs.Flags
import LineEditor.Proofs.Registration

/-! Texts that only look at the document. The commands that show something, store it or quit leave its
lines alone, and so does every command that is asked for its usage; ranges in front of them do not
change that. -/
namespace LineEditor
open LineEditor.Action (effect)

def Commands.looking : List String := ["p", "n", "w", "q", "h"]

theorem Commands.Makes.looks (makes : Makes name values b files after left)
    (looking : name ∈ Commands.looking) : ∃ file, after = { b with file } := by
  cases makes with
  | nothing => exact ⟨b.file, rfl⟩
  | written _ _ => exact ⟨_, rfl⟩
  | inserted named _ | appended named _ | changed named _ | cleared named | read named _ =>
    subst named
    contradiction

variable {registry : Registry} {desk : Desk} {command : List Char} {line : CommandLine}

/-- A text without a range looks if the handler of its command does, as far as it is called. -/
theorem RunsCommand.looks {outcome : Except CommandError Flow × Desk}
    (run : RunsCommand registry command desk outcome) (said : readCommand command = .ok line)
    (handles : ∀ c values, registry.get? line.name = some c → c.grammar.read line.arguments = .ok values →
      ∃ file, (effect (c.handler registry.catalogue values) desk).2.buffer = { desk.buffer with file }) :
    ∃ file, outcome.2.buffer = { desk.buffer with file } := by
  cases run with
  | unread _ => exact ⟨desk.buffer.file, rfl⟩
  | unknown _ _ => exact ⟨desk.buffer.file, rfl⟩
  | refused _ _ _ => exact ⟨desk.buffer.file, rfl⟩
  | @usage _ c _ _ _ =>
    refine ⟨desk.buffer.file, ?_⟩
    exact (prints_usage c.grammar.usage).keeps desk
  | handled again found understood =>
    obtain rfl : line = _ := Except.ok.inj (said.symm.trans again)
    exact handles _ _ found understood

namespace Registry

variable {more : List Definition} {c : Command}

/-- No other definition takes the name of one of the editor's own commands. -/
theorem get?_of_builtin (own : registry.commands = (builtin.registerAll more).commands)
    (isOwn : builtin.get? name = some c) : registry.get? name = some c := by
  rw [get?, own]
  exact get?_registerAll more isOwn

theorem get?_of_mem_all (own : registry.commands = (builtin.registerAll more).commands)
    (member : d ∈ Commands.all) :
    ∃ c, registry.get? d.summary.name = some c ∧ d.compile = .ok c := by
  obtain ⟨c, isOwn, compiled⟩ := builtin_get? member
  exact ⟨c, get?_of_builtin own isOwn, compiled⟩

theorem builtin_of_looking (own : registry.commands = (builtin.registerAll more).commands)
    (looking : name ∈ Commands.looking) (found : registry.get? name = some c) :
    c ∈ builtin.commands := by
  have known : ∀ name ∈ Commands.looking, (builtin.get? name).isSome := by decide +kernel
  obtain ⟨first, isFirst⟩ := Option.isSome_iff_exists.mp (known name looking)
  obtain rfl : c = first := Option.some.inj (found.symm.trans (get?_of_builtin own isFirst))
  exact mem_of_get? isFirst

/-- In every grammar help keeps its name and its letter. -/
theorem grammar_apart (own : registry.commands = (builtin.registerAll more).commands)
    (member : c ∈ registry.commands) : c.grammar.Apart := by
  have reached : builtin.registerAll more = Registry.new.registerAll (Commands.all ++ more) :=
    (registerAll_append _ _ _).symm
  rw [own, reached] at member
  rcases mem_registerAll member with first | ⟨d, -, compiled⟩
  · obtain rfl := List.mem_singleton.mp first
    nofun
  · exact Options.ofDescriptors_apart (Definition.ofDescriptors_of_compile compiled)

end Registry

/-- The words behind a command name ask for help where an option may stand. -/
def AsksForHelp (arguments : List String) : Prop :=
  ∃ front flag rest, arguments = front ++ flag :: rest ∧ flag ∈ Options.helpFlags ∧ "--" ∉ front

/-- What looks without a range. -/
theorem effect_runCommand_looks (own : registry.commands = (Registry.builtin.registerAll more).commands)
    (said : readCommand command = .ok line)
    (looks : line.name ∈ Commands.looking ∨ AsksForHelp line.arguments) (desk : Desk) :
    ∃ file, (effect (runCommand registry 0 command) desk).2.buffer = { desk.buffer with file } := by
  refine (runsCommand_runCommand registry 0 command desk).looks said fun c values found understood => ?_
  rcases looks with looking | ⟨front, flag, rest, words, isFlag, ahead⟩
  · have member := Registry.builtin_of_looking own looking found
    have makes := Registry.builtin_makes member registry.catalogue values desk
    rw [Registry.name_of_get? found] at makes
    exact makes.looks looking
  · have apart := Registry.grammar_apart own (Registry.mem_of_get? found)
    rw [words] at understood
    exact (Options.Grammar.read_flag_ne_ok apart front rest isFlag ahead values understood).elim

/-- What comes of words behind `p`: the lines are shown, or there are words, which are refused or ask for
the usage text. -/
inductive Printing (registry : Registry) (arguments : List String) (desk : Desk) (lines : String) :
    Except CommandError Flow × Desk → Prop where
  | lines : Printing registry arguments desk lines (desk.shown lines .proceed)
  | refused : arguments ≠ [] → Printing registry arguments desk lines (.error (.arguments "p" e), desk)
  | usage : arguments ≠ [] → registry.get? "p" = some c →
      Printing registry arguments desk lines (desk.shown c.grammar.usage .proceed)

theorem Printing.eq_shown {lines : String} (printing : Printing registry [] desk lines outcome) :
    outcome = desk.shown lines .proceed := by
  cases printing with
  | lines => rfl
  | refused words => exact (words rfl).elim
  | usage words _ => exact (words rfl).elim

theorem printing_runCommand (own : registry.commands = (Registry.builtin.registerAll more).commands)
    (said : readCommand command = .ok line) (named : line.name = "p") (desk : Desk) :
    Printing registry line.arguments desk (String.join (desk.buffer.lines.map (· ++ "\n")))
      (effect (runCommand registry 0 command) desk) := by
  obtain ⟨c, found, compiled⟩ :=
    Registry.get?_of_mem_all own (d := Commands.print) (by simp [Commands.all])
  have found : registry.get? "p" = some c := found
  have alone : c.grammar.read [] = .ok ⟨[]⟩ := by
    cases compiled
    rfl
  have handler : c.handler = Commands.print.handler := (Definition.compile_eq_ok compiled).2
  have name : c.name = "p" := Registry.name_of_get? found
  rw [effect_runCommand, said]
  simp only [named, found, Command.run]
  cases understood : c.grammar.read line.arguments with
  | ok values =>
    have shown := Commands.effect_print registry.catalogue values desk
    rw [← handler] at shown
    exact shown ▸ .lines
  | error stop =>
    have words : line.arguments ≠ [] := by
      intro none
      rw [none, alone] at understood
      contradiction
    cases stop with
    | failed e => exact name ▸ .refused words
    | help =>
      dsimp only
      exact effect_usage c.grammar.usage desk ▸ .usage words found
    | version =>
      dsimp only
      exact effect_usage c.grammar.usage desk ▸ .usage words found

/-- The result of printing is the same behind any ranges. -/
theorem Printing.behind {inner : Buffer} {lines : String} {text : List Char}
    (nested : Nested desk.buffer text ranges inner command) (valid : desk.buffer.Valid)
    (few : ranges.length ≤ levels) (nonblank : Text.allBlank command = false)
    (plain : inner.range command = .ok none)
    (printing : Printing registry arguments { desk with buffer := inner } lines
      (effect (runCommand registry 0 command) { desk with buffer := inner })) :
    Printing registry arguments (desk.settled text) lines
      (effect (executeAt registry levels text) desk) := by
  generalize inside : effect (runCommand registry 0 command) { desk with buffer := inner } = outcome
    at printing
  cases printing with
  | lines => exact effect_executeAt_shows nested valid few nonblank plain inside ▸ .lines
  | refused words =>
    exact effect_executeAt_unchanged nested valid few nonblank plain inside ▸ .refused words
  | usage words found =>
    exact effect_executeAt_shows nested valid few nonblank plain inside ▸ .usage words found

/-- Texts that look leave the lines of the document, their numbering and their terminator as they are,
whatever comes of them, and the current line too, but for a `;` in the first range. A single range with
nothing behind it makes its last line current when it has shown one. -/
theorem execute_looking (more : List Definition) (width : Nat) (desk : Desk) (text : String)
    (ranges : List ParsedRange) (inner : Buffer) (command : List Char) (valid : desk.buffer.Valid)
    (nested : Nested desk.buffer text.toList ranges inner command) :
    let registry := { Registry.builtin.registerAll more with numberWidth := width }
    let outcome := effect (execute registry text) desk
    let range := desk.buffer.named ranges
    let lines := String.join
      (((desk.buffer.lines.take range.stop).drop range.start).map fun line => line ++ "\n")
    let kept : Buffer :=
      { desk.buffer with cursor := (ranges.head?.bind (·.moved)).or desk.buffer.cursor }
    (∀ line, readCommand command = .ok line → ranges.length ≤ 63 →
      line.name ∈ ["p", "n", "w", "q", "h"] ∨
        inner.range command = .ok none ∧ AsksForHelp line.arguments →
      (∃ file, outcome.2.buffer = { kept with file }) ∧
        (line.name = "p" → Printing registry line.arguments { desk with buffer := kept } lines outcome)) ∧
    (Text.allBlank command = true → 1 ≤ ranges.length → ranges.length ≤ 64 →
      outcome = Desk.shown { desk with
        buffer := if ranges.length = 1 ∧ range.start < range.stop ∧ (desk.sink.write lines).2 then
          { kept with cursor := some (range.stop - 1) } else kept } lines .proceed) := by
  intro registry outcome range lines kept
  have shownLines : String.join (inner.lines.map (· ++ "\n")) = lines := by rw [nested.lines]
  have settle (plain : inner.range command = .ok none) :
      desk.settled text.toList = { desk with buffer := kept } := by
    rw [Desk.settled, nested.cursorAfter valid (.inl plain)]
  refine ⟨fun line said few looks => ?_, fun blank ranged few => ?_⟩
  · have own : registry.commands = (Registry.builtin.registerAll more).commands := rfl
    have plain : inner.range command = .ok none := by
      rcases looks with looking | ⟨plain, -⟩
      · have foreign : ∀ name ∈ Commands.looking, RangeForm.foreign? name.toList = true := by
          decide +kernel
        exact inner.range_of_readCommand said (foreign line.name looking)
      · exact plain
    have nonblank := nonblank_of_readCommand said
    constructor
    · obtain ⟨file, looked⟩ := effect_runCommand_looks own said (looks.imp_right (·.2))
        { desk with buffer := inner }
      obtain ⟨file, same⟩ := effect_executeAt_looks nested valid few nonblank plain rfl looked
      refine ⟨file, ?_⟩
      rw [settle plain] at same
      exact congrArg (fun outcome => outcome.2.buffer) same
    · intro named
      have printing := (printing_runCommand own said named _).behind nested valid few nonblank plain
      rwa [settle plain, shownLines] at printing
  · have ranged : ranges ≠ [] := List.ne_nil_of_length_pos ranged
    have bare : outcome = _ := effect_executeAt_bare nested valid ranged few blank
    have here : (desk.settled text.toList).buffer = kept := by
      rw [Desk.settled, nested.cursorAfter valid (.inr ranged)]
    rwa [shownLines, here] at bare

/-- A command that would spoil the document only tells how it is used, and a range alone shows its
lines. -/
theorem execute_looking_spoil :
    let spoil : Definition := ⟨⟨"x", "spoil", "Clears the document."⟩, [], fun _ _ => do
      .edit Buffer.clear
      return .proceed⟩
    let registry := { Registry.builtin.registerAll [spoil] with numberWidth := 6 }
    let desk : Desk := ⟨.ofLines ["a", "b", "c", "d"], ⟨[], []⟩, .unlimited⟩
    (∃ file, (effect (execute registry "2;3,x -h") desk).2.buffer =
      { desk.buffer with cursor := some 1, file }) ∧
    effect (execute registry "2,3 ") desk =
      Desk.shown { desk with buffer := { desk.buffer with cursor := some 2 } } "b\nc\n" .proceed := by
  intro spoil registry desk
  have valid : desk.buffer.Valid := by decide
  let outer : ParsedRange := ⟨",x -h".toList, ⟨1, 3⟩, some 1⟩
  let next : ParsedRange := ⟨"x -h".toList, ⟨0, 2⟩, none⟩
  have behind : Nested ⟨["b", "c"], some 1, 2, none, .lf⟩ outer.rest [next]
      ⟨["b", "c"], some 1, 2, none, .lf⟩ "x -h".toList :=
    .range (by decide +kernel) (by decide +kernel) .command
  have nested : Nested desk.buffer "2;3,x -h".toList [outer, next]
      ⟨["b", "c"], some 1, 2, none, .lf⟩ "x -h".toList :=
    .range (by decide +kernel) (by decide +kernel) behind
  have bare : Nested desk.buffer "2,3 ".toList [⟨[' '], ⟨1, 3⟩, none⟩]
      ⟨["b", "c"], some 1, 2, none, .lf⟩ [' '] :=
    .range (by decide +kernel) (by decide +kernel) .command
  have said : readCommand "x -h".toList = .ok ⟨"x", ["-h"]⟩ := by decide +kernel
  have asks : AsksForHelp ["-h"] := ⟨[], "-h", [], rfl, by decide, by decide⟩
  obtain ⟨looks, -⟩ := execute_looking [spoil] 6 desk "2;3,x -h" _ _ _ valid nested
  obtain ⟨-, shows⟩ := execute_looking [spoil] 6 desk "2,3 " _ _ _ valid bare
  obtain ⟨kept, -⟩ := looks _ said (by decide) (.inr ⟨by decide +kernel, asks⟩)
  exact ⟨kept, shows (by decide) (by decide) (by decide)⟩

end LineEditor
