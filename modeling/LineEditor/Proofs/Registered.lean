import LineEditor.Commands
import Mathlib.Data.List.Nodup

/-! Which commands a registry holds, and where their handlers come from. -/
namespace LineEditor

theorem Definition.compile_eq_ok {d : Definition} (compiled : d.compile = .ok c) :
    c.summary = d.summary ∧ c.handler = d.handler := by
  unfold compile at compiled
  split at compiled
  · cases compiled
    exact ⟨rfl, rfl⟩
  · contradiction

theorem Definition.ofDescriptors_of_compile {d : Definition} (compiled : d.compile = .ok c) :
    Options.Grammar.ofDescriptors d.summary.name d.summary.description d.arguments = .ok c.grammar := by
  unfold compile at compiled
  split at compiled
  · cases compiled
    assumption
  · contradiction

namespace Registry

theorem mem_insertSorted {c new : Command} {commands : List Command} :
    c ∈ insertSorted new commands ↔ c = new ∨ c ∈ commands := by
  induction commands with
  | nil => simp [insertSorted]
  | cons first rest ih =>
    by_cases before : new.name < first.name
    · rw [insertSorted, if_pos before, List.mem_cons]
    · rw [insertSorted, if_neg before, List.mem_cons, ih, List.mem_cons]
      exact or_left_comm

theorem find?_insertSorted (new : Command) (commands : List Command) (name : String)
    (fresh : ∀ c ∈ commands, c.name ≠ new.name) :
    (insertSorted new commands).find? (·.name == name) =
      if new.name = name then some new else commands.find? (·.name == name) := by
  induction commands with
  | nil =>
    by_cases same : new.name = name <;> simp [insertSorted, same]
  | cons first rest ih =>
    by_cases before : new.name < first.name
    · rw [insertSorted, if_pos before, List.find?_cons]
      by_cases same : new.name = name
      · simp [same]
      · rw [beq_false_of_ne same, if_neg same]
    · have other := fresh first List.mem_cons_self
      have later := ih fun c member => fresh c (List.mem_cons_of_mem first member)
      rw [insertSorted, if_neg before, List.find?_cons, List.find?_cons, later]
      by_cases same : new.name = name
      · have apart : (first.name == name) = false := by simpa [← same] using other
        rw [apart, if_pos same]
      · rw [if_neg same, if_neg same]

theorem get?_eq_none_iff {r : Registry} : r.get? name = none ↔ ∀ c ∈ r.commands, c.name ≠ name := by
  simp [get?]

theorem register_eq_ok {r : Registry} (registered : r.register d = .ok next) :
    ∃ c, d.compile = .ok c ∧ next = { r with commands := insertSorted c r.commands } := by
  unfold register at registered
  by_cases blank : Text.allBlank d.summary.name.toList
  · rw [if_pos blank] at registered
    contradiction
  by_cases reserved : d.summary.name = helpName
  · rw [if_neg blank, if_pos reserved] at registered
    contradiction
  by_cases duplicate : (r.get? d.summary.name).isSome
  · rw [if_neg blank, if_neg reserved, if_pos duplicate] at registered
    contradiction
  rw [if_neg blank, if_neg reserved, if_neg duplicate] at registered
  cases compiled : d.compile with
  | error e =>
    rw [compiled] at registered
    contradiction
  | ok c =>
    rw [compiled] at registered
    exact ⟨c, rfl, (Except.ok.inj registered).symm⟩

/-- A command was in the registry before or belongs to one of the definitions. -/
theorem mem_registerAll {r : Registry} {definitions : List Definition}
    (member : c ∈ (r.registerAll definitions).commands) :
    c ∈ r.commands ∨ ∃ d ∈ definitions, d.compile = .ok c := by
  induction definitions generalizing r with
  | nil => exact .inl member
  | cons d definitions ih =>
    rcases ih (r := (r.register d).toOption.getD r) member with old | ⟨later, isLater, compiled⟩
    · cases registered : r.register d with
      | error e =>
        rw [registered] at old
        exact .inl old
      | ok next =>
        obtain ⟨new, compiled, rfl⟩ := register_eq_ok registered
        rw [registered] at old
        rcases mem_insertSorted.mp old with rfl | old
        · exact .inr ⟨d, List.mem_cons_self, compiled⟩
        · exact .inl old
    · exact .inr ⟨later, List.mem_cons_of_mem _ isLater, compiled⟩

theorem mem_of_get? {r : Registry} (found : r.get? name = some c) : c ∈ r.commands :=
  List.mem_of_find?_eq_some found

theorem name_of_get? {r : Registry} (found : r.get? name = some c) : c.name = name := by
  simpa using List.find?_some found

/-- The editor's own commands. -/
theorem builtin_command (member : c ∈ builtin.commands) :
    c = help ∨ ∃ d ∈ Commands.all, c.summary = d.summary ∧ c.handler = d.handler := by
  rcases mem_registerAll member with old | ⟨d, isBuiltin, compiled⟩
  · exact .inl (List.mem_singleton.mp old)
  · exact .inr ⟨d, isBuiltin, Definition.compile_eq_ok compiled⟩

/-- The editor's own commands are found under their names. -/
theorem builtin_get? {d : Definition} (member : d ∈ Commands.all) :
    ∃ c, builtin.get? d.summary.name = some c ∧ d.compile = .ok c := by
  have distinct : (Commands.all.map (·.summary.name)).Nodup := by decide +kernel
  have known : ∀ d ∈ Commands.all,
      (builtin.get? d.summary.name).isSome ∧ d.summary.name ≠ helpName := by decide +kernel
  obtain ⟨present, notHelp⟩ := known d member
  obtain ⟨c, found⟩ := Option.isSome_iff_exists.mp present
  have named : c.name = d.summary.name := name_of_get? found
  refine ⟨c, found, ?_⟩
  rcases mem_registerAll (mem_of_get? found) with old | ⟨other, isBuiltin, compiled⟩
  · obtain rfl : c = help := List.mem_singleton.mp old
    exact (notHelp named.symm).elim
  · have sameName : other.summary.name = d.summary.name := by
      rw [← (Definition.compile_eq_ok compiled).1]
      exact named
    rwa [← List.inj_on_of_nodup_map distinct isBuiltin member sameName]

/-- Under the name of one of the editor's own commands its handler is found. -/
theorem handler_of_get? {r : Registry} {d : Definition} (own : r.commands = builtin.commands)
    (found : r.get? d.summary.name = some c) (member : d ∈ Commands.all) : c.handler = d.handler := by
  obtain ⟨first, isFirst, compiled⟩ := builtin_get? member
  have same : builtin.get? d.summary.name = some c := by rw [← found, get?, get?, own]
  obtain rfl : first = c := Option.some.inj (isFirst.symm.trans same)
  exact (Definition.compile_eq_ok compiled).2

end Registry
end LineEditor
