import LineEditor.Proofs.Execute

/-! What doing a command text in a valid document can come to, as a relation with one constructor for
each way in which the text can go on. A property of every run is an induction on it: `executeAt` need
not be taken apart again. -/
namespace LineEditor
open LineEditor.Action (effect)

inductive RunsCommand (registry : Registry) (text : List Char) (desk : Desk) :
    Except CommandError Flow × Desk → Prop where
  | unread : readCommand text = .error e → RunsCommand registry text desk (.error e, desk)
  | unknown : readCommand text = .ok line → registry.get? line.name = none →
      RunsCommand registry text desk (.error (.unknownCommand line.name), desk)
  | refused : readCommand text = .ok line → registry.get? line.name = some c →
      c.grammar.read line.arguments = .error (.failed e) →
      RunsCommand registry text desk (.error (.arguments c.name e), desk)
  | usage : readCommand text = .ok line → registry.get? line.name = some c →
      c.grammar.read line.arguments = .error .help ∨ c.grammar.read line.arguments = .error .version →
      RunsCommand registry text desk
        (effect (do .print c.grammar.usage; return .proceed) desk)
  | handled : readCommand text = .ok line → registry.get? line.name = some c →
      c.grammar.read line.arguments = .ok values →
      RunsCommand registry text desk (effect (c.handler registry.catalogue values) desk)

theorem runsCommand_runCommand (registry : Registry) (depth : Nat) (text : List Char) (desk : Desk) :
    RunsCommand registry text desk (effect (runCommand registry depth text) desk) := by
  rw [effect_runCommand]
  cases said : readCommand text with
  | error e => exact .unread said
  | ok line =>
    dsimp only
    cases found : registry.get? line.name with
    | none => exact .unknown said found
    | some c =>
      dsimp only
      unfold Command.run
      cases understood : c.grammar.read line.arguments with
      | ok values => exact .handled said found understood
      | error stop =>
        cases stop with
        | failed e => exact .refused said found understood
        | help => exact .usage said found (.inl understood)
        | version => exact .usage said found (.inr understood)

/-- Doing a text that may hold this many more ranges with something behind them has this outcome. -/
inductive Executes (registry : Registry) :
    Nat → List Char → Desk → Except CommandError Flow × Desk → Prop where
  | refused : desk.buffer.range text = .error e →
      Executes registry levels text desk (.error (.address e), desk.settled text)
  | command : desk.buffer.range text = .ok none → RunsCommand registry text desk outcome →
      Executes registry levels text desk outcome
  | shown (p : ParsedRange) (slice : Buffer) : desk.buffer.range text = .ok (some p) →
      desk.buffer.slice? p.range.start p.range.stop = some slice → Text.allBlank p.rest = true →
      Executes registry levels text desk (effect (showRange 0 p.range slice) (desk.settled text))
  | tooDeep : desk.buffer.range text = .ok (some p) → Text.allBlank p.rest = false →
      Executes registry 0 text desk (.error .nestingTooDeep, desk.settled text)
  | nested (p : ParsedRange) (slice : Buffer) (outcome : Except CommandError Flow × Desk) :
      desk.buffer.range text = .ok (some p) →
      desk.buffer.slice? p.range.start p.range.stop = some slice → Text.allBlank p.rest = false →
      Executes registry levels p.rest { desk with buffer := slice } outcome →
      Executes registry (levels + 1) text desk (afterNested (desk.settled text) p.range outcome)

theorem Buffer.exists_slice {b : Buffer} (valid : b.Valid) (parsed : b.range text = .ok (some p)) :
    ∃ slice, b.slice? p.range.start p.range.stop = some slice := by
  obtain ⟨ordered, bounded, -⟩ := b.range_within valid parsed
  exact ⟨_, slice?_eq_some_iff.mpr ⟨ordered, bounded, rfl⟩⟩

variable {registry : Registry} {levels : Nat} {text : List Char} {desk : Desk}

theorem Executes.of_inner (valid : desk.buffer.Valid)
    (inner : ∀ lower, levels = lower + 1 → ∀ text desk, desk.buffer.Valid →
      Executes registry lower text desk (effect (executeAt registry lower text) desk)) :
    Executes registry levels text desk (effect (executeAt registry levels text) desk) := by
  cases range : desk.buffer.range text with
  | error e =>
    rw [effect_executeAt_refused range]
    exact .refused range
  | ok found =>
    cases found with
    | none =>
      rw [effect_executeAt_command range]
      exact .command range (runsCommand_runCommand registry 0 text desk)
    | some p =>
      obtain ⟨slice, cut⟩ := Buffer.exists_slice valid range
      cases blank : Text.allBlank p.rest with
      | true =>
        rw [effect_executeAt_shown range cut blank]
        exact .shown p slice range cut blank
      | false =>
        cases levels with
        | zero =>
          rw [effect_executeAt_tooDeep range cut blank]
          exact .tooDeep range blank
        | succ levels =>
          rw [effect_executeAt_nested range cut blank]
          exact .nested p slice _ range cut blank (inner levels rfl p.rest _ (Buffer.slice_valid cut))

/-- In a valid document every text can be done, and every slice on the way is one. -/
theorem executes_executeAt (registry : Registry) (levels : Nat) (text : List Char) (desk : Desk)
    (valid : desk.buffer.Valid) :
    Executes registry levels text desk (effect (executeAt registry levels text) desk) := by
  induction levels generalizing text desk with
  | zero => exact .of_inner valid nofun
  | succ levels ih =>
    refine .of_inner valid ?_
    rintro lower same
    obtain rfl : levels = lower := Nat.succ.inj same
    exact ih

end LineEditor
