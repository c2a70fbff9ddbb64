import LineEditor.Proofs.Arguments
import LineEditor.Proofs.Registration

/-! Commands called with positional values alone, so that all options take their fallbacks. A command is
registered whether these denote values or not, and it is the call that fails if they do not. -/
namespace LineEditor
namespace Options

variable {descriptors : List Descriptor} {values : List String} {g : Grammar}

def FallbacksFit (descriptors : List Descriptor) : Prop :=
  ∀ d ∈ descriptors, d.optional = true → ∀ word ∈ d.fallback, d.kind.Fits word

theorem admissible_nil_iff
    (fit : List.Forall₂ (fun d word => d.kind.Fits word) (positional descriptors) values) :
    Admissible descriptors [] values ↔ FallbacksFit descriptors := by
  constructor
  · intro admissible d member optional word fallback
    exact admissible.fit (d.given word) (.fallback member optional List.not_mem_nil fallback)
  · intro fallbacks
    refine ⟨List.nodup_nil, fit.length_eq.symm, fun a provided => ?_⟩
    cases provided with
    | option inside => contradiction
    | positional inside => exact List.forall₂_zip fit inside
    | fallback member optional _ fallback => exact fallbacks _ member optional _ fallback

/-- If the positional values are right, only a fallback can be wrong. -/
theorem read_eq_error_of_fit (accepted : Grammar.ofDescriptors command about descriptors = .ok g)
    (fit : List.Forall₂ (fun d word => d.kind.Fits word) (positional descriptors) values)
    (refused : g.read ("--" :: values) = .error stop) :
    ∃ e, stop = .failed e ∧ ∃ d ∈ descriptors, d.optional = true ∧
      ∃ word, d.fallback = some word ∧ d.kind.read (d.toNamed none).shown word = .error e := by
  have placed : ∀ a ∈ [] ++ List.zipWith Positional.given g.positionals values, a.kind.Fits a.word := by
    intro a member
    rw [List.nil_append, placed_eq accepted] at member
    obtain ⟨⟨d, word⟩, inside, rfl⟩ := List.mem_map.mp member
    exact List.forall₂_zip fit inside
  have number : values.length = g.positionals.length :=
    fit.length_eq.symm.trans (length_positionals accepted).symm
  have none : ∀ a ∈ ([] : List Argument), g.Declares a := nofun
  obtain ⟨e, failed, o, inside, word, fallback, wrong⟩ := Grammar.read_given_eq_error
    (ofDescriptors_regular accepted) none (.marked values) List.nodup_nil number placed refused
  obtain ⟨d, member, optional, same⟩ := descriptor_of_mem_named accepted inside
  rw [same] at fallback wrong
  exact ⟨e, failed, d, member, optional, word, fallback, wrong⟩

end Options

namespace Registry

variable {r next : Registry} {d : Definition}

/-- A registered command that is called with positional values of the kinds described, and with nothing else,
reaches its handler if the fallbacks of all its options denote values, and the handler finds each of them by
the kind of its option. Otherwise every such call fails, for a fallback that denotes no value. -/
theorem register_fallbacks (registered : r.register d = .ok next)
    (fit : List.Forall₂ (fun a word => a.kind.Fits word) (Options.positional d.arguments) values) :
    ∃ c, next.get? d.summary.name = some c ∧
      (Options.FallbacksFit d.arguments → ∃ found, c.grammar.read ("--" :: values) = .ok found ∧
        found.Complete d.arguments [] values ∧
        ∀ catalogue, c.run catalogue ("--" :: values) = d.handler catalogue found) ∧
      (¬ Options.FallbacksFit d.arguments → ∃ e, c.grammar.read ("--" :: values) = .error (.failed e) ∧
        (∃ a ∈ d.arguments, a.optional = true ∧
          ∃ word, a.fallback = some word ∧ a.kind.read (a.toNamed none).shown word = .error e) ∧
        ∀ catalogue, c.run catalogue ("--" :: values) = .fail (.arguments d.summary.name e)) := by
  obtain ⟨c, known, compiled⟩ := get?_of_register registered
  have accepted := Definition.ofDescriptors_of_compile compiled
  obtain ⟨summary, handler⟩ := Definition.compile_eq_ok compiled
  have declared : ∀ o ∈ ([] : List (Options.Descriptor × String)), o.1 ∈ d.arguments ∧
      o.1.optional = true ∧ '=' ∉ o.1.name.toList := nofun
  have understood := Options.exists_read_iff accepted declared (.marked values)
  rw [Options.admissible_nil_iff fit] at understood
  refine ⟨c, known, fun fallbacks => ?_, fun unfit => ?_⟩
  · obtain ⟨found, read⟩ := understood.mpr fallbacks
    have read : c.grammar.read ("--" :: values) = .ok found := read
    have complete := Options.complete_of_read accepted declared (.marked values) read
    refine ⟨found, read, complete, fun catalogue => ?_⟩
    rw [Command.run, read, handler]
  · cases read : c.grammar.read ("--" :: values) with
    | ok found => exact (unfit (understood.mp ⟨found, read⟩)).elim
    | error stop =>
      obtain ⟨e, rfl, wrong⟩ := Options.read_eq_error_of_fit accepted fit read
      refine ⟨e, rfl, wrong, fun catalogue => ?_⟩
      rw [Command.run, read, Command.name, summary]

/-- The fallback of the option is found behind a positional value that looks like an option. -/
theorem register_fallbacks_two :
    let text : Options.Descriptor := ⟨"text", .text, false, none, ""⟩
    let count : Options.Descriptor := ⟨"count", .integer, true, some "2", ""⟩
    let d : Definition := ⟨⟨"x", "custom", "Custom command."⟩, [text, count], fun _ values => do
      .print (toString ((values.integer? "count").getD 0))
      return .proceed⟩
    ∃ next c, new.register d = .ok next ∧ next.get? "x" = some c ∧
      ∀ catalogue, c.run catalogue ["--", "-c"] = do
        .print "2"
        return .proceed := by
  intro text count d
  have taken : (new.register d).toOption.isSome := by decide +kernel
  cases registered : new.register d with
  | error e =>
    rw [registered] at taken
    contradiction
  | ok next =>
    have fit : List.Forall₂ (fun a word => a.kind.Fits word) (Options.positional d.arguments) ["-c"] :=
      .cons ⟨_, .text "-c"⟩ .nil
    obtain ⟨c, known, called, -⟩ := register_fallbacks registered fit
    have read : Options.Kind.integer.read "" "2" = .ok (.integer 2) := by decide
    have two : Options.Kind.integer.Denotes "2" (.integer 2) := Options.Kind.read_eq_ok_iff.mp read
    have fallbacks : Options.FallbacksFit [text, count] := by
      intro a member optional word fallback
      rcases List.mem_cons.mp member with rfl | member
      · contradiction
      · obtain rfl := List.mem_singleton.mp member
        cases fallback
        exact ⟨_, two⟩
    obtain ⟨found, -, complete, handled⟩ := called fallbacks
    obtain ⟨value, denotes, holds⟩ := complete.provided (count.given "2")
      (.fallback (by decide) rfl (by decide) rfl)
    rw [denotes.unique two] at holds
    have number : found.integer? "count" = some 2 := congrArg (·.2.1) holds
    refine ⟨next, c, rfl, known, fun catalogue => (handled catalogue).trans ?_⟩
    simp only [d, number]
    rfl

/-- The registry takes in a command that fails on every call without its option. -/
theorem not_register_fallbacks :
    let count : Options.Descriptor := ⟨"count", .integer, true, some "abc", ""⟩
    let d : Definition := ⟨⟨"x", "custom", "Custom command."⟩, [count], fun _ _ => return .proceed⟩
    ∃ next c, new.register d = .ok next ∧ next.get? "x" = some c ∧
      List.Forall₂ (fun a word => a.kind.Fits word) (Options.positional d.arguments) [] ∧
      (∀ found, c.grammar.read ["--"] ≠ .ok found) ∧
      ∀ catalogue, c.run catalogue ["--"] = .fail (.arguments "x"
        (.invalidValue "abc" "--count <count>" "invalid digit found in string")) := by
  intro count d
  let grammar : Options.Grammar := ⟨"x", "Custom command.", none, [count.toNamed (some 'c')], []⟩
  have accepted : Options.Grammar.ofDescriptors "x" "Custom command." [count] = .ok grammar := by decide +kernel
  have compiled : d.compile = .ok ⟨d.summary, grammar, d.handler⟩ := by
    simp only [Definition.compile, d, accepted]
  obtain ⟨next, registered⟩ : ∃ next, new.register d = .ok next := by
    rw [register, if_neg (by decide +kernel), if_neg (by decide +kernel), if_neg (by decide +kernel), compiled]
    exact ⟨_, rfl⟩
  obtain ⟨c, known, same⟩ := get?_of_register registered
  obtain rfl : _ = c := Except.ok.inj (compiled.symm.trans same)
  have read : grammar.read ["--"] =
      .error (.failed (.invalidValue "abc" "--count <count>" "invalid digit found in string")) := by
    decide +kernel
  refine ⟨next, _, registered, known, .nil, fun found understood => ?_, fun catalogue => ?_⟩
  · rw [read] at understood
    contradiction
  · rw [Command.run, read]
    rfl

end Registry
end LineEditor
