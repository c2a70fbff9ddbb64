import LineEditor.Proofs.Display

/-! A command that fails leaves the document as it was, apart from the current line that `;` has moved
at the head of its text. Behind a range this holds of any commands, since they work on a slice; without
one it holds of commands that check everything before they change anything, as the editor's own do. -/
namespace LineEditor
open LineEditor.Action (effect andThen)

namespace Action

def Keeps (x : Action α) : Prop := ∀ desk, (effect x desk).2.buffer = desk.buffer

def FailsClean (x : Action α) : Prop :=
  ∀ desk e, (effect x desk).1 = .error e → (effect x desk).2.buffer = desk.buffer

theorem Keeps.failsClean {x : Action α} (keeps : Keeps x) : FailsClean x :=
  fun desk _ _ => keeps desk

theorem keeps_pure (a : α) : Keeps (pure a : Action α) := fun _ => rfl

theorem keeps_fail (e : CommandError) : Keeps (fail e : Action α) := fun _ => rfl

theorem keeps_buffer : Keeps buffer := fun _ => rfl

theorem Prints.keeps {x : Action α} (prints : Prints x a) : Keeps x := by
  intro desk
  obtain ⟨text, shown⟩ := prints.exists_shown desk
  rw [shown]
  rfl

theorem Keeps.bind {x : Action α} {f : α → Action β} (first : Keeps x) (rest : ∀ a, Keeps (f a)) :
    Keeps (x >>= f) := by
  intro desk
  have kept := first desk
  rw [effect_bind]
  cases step : effect x desk with
  | mk result left =>
    rw [step] at kept
    cases result with
    | error e => exact kept
    | ok a => exact (rest a left).trans kept

theorem keeps_readFile (path : String) : Keeps (readFile path) := by
  intro desk
  rw [effect_readFile]
  cases desk.files.readText path <;> rfl

theorem keeps_writeFile (path : String) : Keeps (writeFile path) := by
  intro desk
  rw [effect_writeFile]
  cases desk.files.writeText path desk.buffer.render <;> rfl

/-- Checks and effects that leave the document alone may come before anything that fails cleanly. -/
theorem Keeps.bind_failsClean {x : Action α} {f : α → Action β} (first : Keeps x)
    (rest : ∀ a, FailsClean (f a)) : FailsClean (x >>= f) := by
  intro desk e failed
  have kept := first desk
  rw [effect_bind] at failed ⊢
  cases step : effect x desk with
  | mk result left =>
    rw [step] at kept failed
    cases result with
    | error e => exact kept
    | ok a => exact (rest a left e failed).trans kept

/-- A change of the document that nothing follows cannot fail. -/
theorem failsClean_edit (f : Buffer → Buffer) (a : α) :
    FailsClean (edit f >>= fun _ => pure a) := by
  intro desk e failed
  simp at failed

end Action

namespace Commands
open LineEditor.Action

theorem keeps_chosenFile (values : Options.Values) : Keeps (chosenFile values) := by
  apply keeps_buffer.bind
  intro b
  cases (values.text? "filename").or b.file with
  | none => exact keeps_fail _
  | some path => exact keeps_pure path

theorem failsClean_textHandler (name : String) (f : Buffer → List String → Buffer)
    (catalogue : Catalogue) (values : Options.Values) :
    FailsClean (textHandler name f catalogue values) := by
  unfold textHandler
  cases values.text? "text" with
  | none => exact (keeps_fail _).failsClean
  | some text => exact failsClean_edit _ _

/-- The editor's own commands change the document only when nothing can go wrong any more. -/
theorem failsClean_of_mem_all (member : d ∈ all) (catalogue : Catalogue)
    (values : Options.Values) : FailsClean (d.handler catalogue values) := by
  simp only [all, List.mem_cons, List.not_mem_nil, or_false] at member
  rcases member with rfl | rfl | rfl | rfl | rfl | rfl | rfl | rfl | rfl
  · exact failsClean_textHandler _ _ catalogue values
  · exact failsClean_textHandler _ _ catalogue values
  · exact failsClean_textHandler _ _ catalogue values
  · exact failsClean_edit _ _
  · exact (print_prints catalogue values).keeps.failsClean
  · exact (number_prints catalogue values).keeps.failsClean
  · exact (keeps_chosenFile values).bind_failsClean fun path =>
      (keeps_readFile path).bind_failsClean fun _ => failsClean_edit _ _
  · exact (keeps_chosenFile values).bind_failsClean fun path =>
      (keeps_writeFile path).bind_failsClean fun _ => failsClean_edit _ _
  · exact (keeps_pure _).failsClean

end Commands

open LineEditor.Action

theorem Command.failsClean_run {c : Command}
    (clean : ∀ catalogue values, FailsClean (c.handler catalogue values)) (catalogue : Catalogue)
    (arguments : List String) : FailsClean (c.run catalogue arguments) := by
  unfold Command.run
  split
  · exact clean catalogue _
  · exact (keeps_fail _).failsClean
  · exact (prints_usage _).keeps.failsClean
  · exact (prints_usage _).keeps.failsClean

theorem Registry.builtin_failsClean (member : c ∈ builtin.commands) (catalogue : Catalogue)
    (values : Options.Values) : FailsClean (c.handler catalogue values) := by
  rcases builtin_command member with rfl | ⟨d, isBuiltin, -, same⟩
  · exact (help_prints catalogue values).keeps.failsClean
  · rw [same]
    exact Commands.failsClean_of_mem_all isBuiltin catalogue values

variable {registry : Registry} {desk : Desk} {text : List Char} {levels : Nat}

theorem failsClean_runCommand (depth : Nat)
    (clean : ∀ c ∈ registry.commands, ∀ catalogue values, FailsClean (c.handler catalogue values)) :
    FailsClean (runCommand registry depth text) := by
  intro desk e failed
  rw [effect_runCommand] at failed ⊢
  cases read : readCommand text with
  | error e => rfl
  | ok line =>
    simp only [read] at failed ⊢
    cases found : registry.get? line.name with
    | none => rfl
    | some c =>
      simp only [found] at failed ⊢
      have member := Registry.mem_of_get? found
      exact Command.failsClean_run (clean c member) registry.catalogue line.arguments desk e failed

/-- Showing a range fails before the current line moves to its end. -/
theorem failsClean_showRange (depth : Nat) (range : LineRange) (slice : Buffer) :
    FailsClean (showRange depth range slice) := by
  intro desk e failed
  rw [effect_showRange] at failed ⊢
  cases shown : effect Commands.printLines { desk with buffer := slice } with
  | mk result left =>
    cases result with
    | error e => rfl
    | ok _ =>
      rw [shown] at failed
      contradiction

/-- Behind a range no failure reaches the document, whatever the commands may do to their slices. -/
theorem executeAt_failed_of_range (parsed : desk.buffer.range text = .ok (some p))
    (failed : (effect (executeAt registry levels text) desk).1 = .error e) :
    (effect (executeAt registry levels text) desk).2.buffer = (desk.settled text).buffer := by
  cases cut : desk.buffer.slice? p.range.start p.range.stop with
  | none =>
    rw [effect_executeAt_outside registry levels parsed cut]
  | some slice =>
    cases blank : Text.allBlank p.rest with
    | true =>
      rw [effect_executeAt_shown parsed cut blank] at failed ⊢
      exact failsClean_showRange 0 p.range slice _ e failed
    | false =>
      cases levels with
      | zero => rw [effect_executeAt_tooDeep parsed cut blank]
      | succ levels =>
        rw [effect_executeAt_nested parsed cut blank] at failed ⊢
        cases inner : effect (executeAt registry levels p.rest) { desk with buffer := slice } with
        | mk result left =>
          cases result with
          | error e => rfl
          | ok flow =>
            rw [inner] at failed
            contradiction

/-- A failed command text leaves the document as it was, but for a current line that `;` behind its
first address has moved. -/
theorem execute_failed (registry : Registry) (text : String) (desk : Desk) (e : CommandError)
    (scope : registry.commands = Registry.builtin.commands ∨
      desk.buffer.range text.toList ≠ .ok none)
    (failed : (execute registry text desk).result = .error e) :
    (execute registry text desk).desk.buffer =
      { desk.buffer with cursor := desk.buffer.cursorAfter text.toList } := by
  change (effect (executeAt registry (maxDepth - 1) text.toList) desk).1 = .error e at failed
  change (effect (executeAt registry (maxDepth - 1) text.toList) desk).2.buffer =
    (desk.settled text.toList).buffer
  cases range : desk.buffer.range text.toList with
  | error refusal => rw [effect_executeAt_refused range]
  | ok found =>
    cases found with
    | some p => exact executeAt_failed_of_range range failed
    | none =>
      rcases scope with builtin | ranged
      · have still : (desk.settled text.toList).buffer = desk.buffer := by
          simp [Desk.settled, desk.buffer.cursorAfter_of_absent range]
        rw [still]
        rw [effect_executeAt_command range] at failed ⊢
        refine failsClean_runCommand 0 ?_ desk e failed
        intro c member
        exact Registry.builtin_failsClean (builtin ▸ member)
      · exact (ranged range).elim

theorem execute_failed_spoiled :
    let spoil : Command :=
      ⟨⟨"x", "spoil", "Clears the document and fails."⟩, ⟨"x", "", none, [], []⟩,
        fun _ _ => do
          .edit Buffer.clear
          .fail .noFilename⟩
    let desk : Desk := ⟨.ofLines ["a", "b", "c"], ⟨[], []⟩, .unlimited⟩
    desk.buffer.range "2;,x".toList ≠ .ok none ∧
      (execute ⟨[spoil], 6⟩ "2;,x" desk).result = .error .noFilename ∧
      (execute ⟨[spoil], 6⟩ "2;,x" desk).desk.buffer = { desk.buffer with cursor := some 1 } := by
  intro spoil desk
  have ranged : desk.buffer.range "2;,x".toList ≠ .ok none := by decide +kernel
  have failed : (execute ⟨[spoil], 6⟩ "2;,x" desk).result = .error .noFilename := by decide +kernel
  have left := execute_failed ⟨[spoil], 6⟩ "2;,x" desk _ (.inr ranged) failed
  exact ⟨ranged, failed, left.trans (by decide +kernel)⟩

end LineEditor
