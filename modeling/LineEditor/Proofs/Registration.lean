import LineEditor.Proofs.Behind
import LineEditor.Proofs.Descriptors
import LineEditor.Proofs.Registered
import Mathlib.Data.List.Forall2

/-! Which definitions a registry takes and what it holds after any number of them. A name belongs to the
first definition that is accepted under it, what is refused leaves no trace, and the list of commands
shows all of them in order. -/
namespace LineEditor
open LineEditor.Action (effect)
open LineEditor.Options (Declarable FirstMistake)

structure Definition.Nameable (d : Definition) : Prop where
  visible : Text.allBlank d.summary.name.toList = false
  free : d.summary.name ≠ helpName

theorem Definition.compile_spec (d : Definition) :
    match d.compile with
    | .ok _ => Declarable d.arguments
    | .error e => ∃ mistake, e = .invalidArguments d.summary.name mistake ∧
        FirstMistake d.arguments mistake := by
  have spec := Options.ofDescriptors_spec d.summary.name d.summary.description d.arguments
  unfold compile
  cases arranged : Options.Grammar.ofDescriptors d.summary.name d.summary.description d.arguments with
  | error mistake =>
    rw [arranged] at spec
    exact ⟨mistake, rfl, spec⟩
  | ok grammar =>
    rw [arranged] at spec
    exact spec

namespace Registry

/-- Why a definition is refused. Of several reasons the first one counts. -/
inductive Refuses (r : Registry) (d : Definition) : RegistryError → Prop where
  | emptyName : Text.allBlank d.summary.name.toList = true → Refuses r d .emptyName
  | reserved : d.summary.name = helpName → Refuses r d (.reserved d.summary.name)
  | duplicate : d.Nameable → (∃ c ∈ r.commands, c.name = d.summary.name) →
      Refuses r d (.duplicate d.summary.name)
  | invalidArguments : d.Nameable → (∀ c ∈ r.commands, c.name ≠ d.summary.name) →
      FirstMistake d.arguments mistake → Refuses r d (.invalidArguments d.summary.name mistake)

/-- The definitions that are accepted when all of these are registered one after the other. -/
def accepted (r : Registry) : List Definition → List Definition
  | [] => []
  | d :: later =>
    match r.register d with
    | .ok next => d :: next.accepted later
    | .error _ => r.accepted later

/-- The registry holds help and what has been accepted, in this order, since there was nothing else. -/
structure Holds (r : Registry) (accepted : List Definition) : Prop where
  sorted : r.commands.Pairwise (·.name < ·.name)
  entries : ∃ own, List.Forall₂ (fun d c => d.compile = .ok c) accepted own ∧
    r.commands.Perm (help :: own)
  nameable : ∀ d ∈ accepted, d.Nameable
  help : r.get? helpName = some help
  first : ∀ name, name ≠ helpName →
    r.get? name = (accepted.find? (·.summary.name == name)).bind (·.compile.toOption)

variable {r next : Registry} {d : Definition} {before : List Definition}

/-! ### One definition -/

theorem register_spec (r : Registry) (d : Definition) :
    match r.register d with
    | .error e => r.Refuses d e
    | .ok next => d.Nameable ∧ (∀ c ∈ r.commands, c.name ≠ d.summary.name) ∧
        ∃ c, d.compile = .ok c ∧ next = { r with commands := insertSorted c r.commands } := by
  unfold register
  cases visible : Text.allBlank d.summary.name.toList with
  | true => exact .emptyName visible
  | false =>
    by_cases reserved : d.summary.name = helpName
    · rw [if_neg Bool.false_ne_true, if_pos reserved]
      exact .reserved reserved
    have nameable : d.Nameable := ⟨visible, reserved⟩
    cases known : r.get? d.summary.name with
    | some c =>
      rw [if_neg Bool.false_ne_true, if_neg reserved]
      exact .duplicate nameable ⟨c, mem_of_get? known, name_of_get? known⟩
    | none =>
      have fresh := get?_eq_none_iff.mp known
      have spec := d.compile_spec
      rw [if_neg Bool.false_ne_true, if_neg reserved]
      cases compiled : d.compile with
      | error e =>
        rw [compiled] at spec
        obtain ⟨mistake, rfl, first⟩ := spec
        exact .invalidArguments nameable fresh first
      | ok c => exact ⟨nameable, fresh, c, rfl, rfl⟩

theorem register_of_refuses (refuses : r.Refuses d e) : r.register d = .error e := by
  unfold register
  cases refuses with
  | emptyName blank =>
    rw [if_pos blank]
    rfl
  | reserved reserved =>
    have visible : Text.allBlank d.summary.name.toList = false := by
      rw [reserved]
      rfl
    rw [visible, if_neg Bool.false_ne_true, if_pos reserved]
    rfl
  | duplicate nameable known =>
    have found : (r.get? d.summary.name).isSome := by
      rw [Option.isSome_iff_ne_none, ne_eq, get?_eq_none_iff]
      obtain ⟨c, member, same⟩ := known
      exact fun fresh => fresh c member same
    rw [nameable.visible, if_neg Bool.false_ne_true, if_neg nameable.free, if_pos found]
    rfl
  | @invalidArguments mistake nameable fresh first =>
    have unknown : r.get? d.summary.name = none := get?_eq_none_iff.mpr fresh
    have refused : d.compile = .error (.invalidArguments d.summary.name mistake) := by
      unfold Definition.compile
      rw [Options.ofDescriptors_eq_error_iff.mpr first]
    rw [nameable.visible, if_neg Bool.false_ne_true, if_neg nameable.free, unknown, refused]
    rfl

theorem register_eq_error_iff : r.register d = .error e ↔ r.Refuses d e := by
  constructor
  · intro refused
    have spec := r.register_spec d
    rwa [refused] at spec
  · exact register_of_refuses

theorem exists_refuses_iff :
    (∃ e, r.Refuses d e) ↔
      Text.allBlank d.summary.name.toList = true ∨ d.summary.name = helpName ∨
        (∃ c ∈ r.commands, c.name = d.summary.name) ∨ ¬ Declarable d.arguments := by
  constructor
  · rintro ⟨e, refuses⟩
    cases refuses with
    | emptyName blank => exact .inl blank
    | reserved reserved => exact .inr (.inl reserved)
    | duplicate _ known => exact .inr (.inr (.inl known))
    | invalidArguments _ _ first => exact .inr (.inr (.inr first.not_declarable))
  · intro wrong
    have spec := r.register_spec d
    cases registered : r.register d with
    | error e =>
      rw [registered] at spec
      exact ⟨e, spec⟩
    | ok next =>
      rw [registered] at spec
      obtain ⟨nameable, fresh, c, compiled, -⟩ := spec
      have declarable := d.compile_spec
      rw [compiled] at declarable
      rcases wrong with blank | reserved | ⟨known, member, same⟩ | undeclarable
      · rw [nameable.visible] at blank
        contradiction
      · exact (nameable.free reserved).elim
      · exact (fresh known member same).elim
      · exact (undeclarable declarable).elim

/-- A definition that is accepted takes its name, which was free, and no other. -/
theorem register_get? (registered : r.register d = .ok next) :
    r.get? d.summary.name = none ∧ ∃ c, d.compile = .ok c ∧
      ∀ name, next.get? name = if d.summary.name = name then some c else r.get? name := by
  have spec := r.register_spec d
  rw [registered] at spec
  obtain ⟨-, fresh, c, compiled, rfl⟩ := spec
  have named : c.name = d.summary.name := congrArg Summary.name (Definition.compile_eq_ok compiled).1
  refine ⟨get?_eq_none_iff.mpr fresh, c, compiled, fun name => ?_⟩
  rw [← named] at fresh ⊢
  exact find?_insertSorted c r.commands name fresh

theorem get?_of_register (registered : r.register d = .ok next) :
    ∃ c, next.get? d.summary.name = some c ∧ d.compile = .ok c := by
  obtain ⟨-, c, compiled, known⟩ := register_get? registered
  exact ⟨c, (known _).trans (if_pos rfl), compiled⟩

/-- A command that is known stays known. -/
theorem get?_register (registered : r.register d = .ok next) (found : r.get? name = some c) :
    next.get? name = some c := by
  obtain ⟨free, new, -, known⟩ := register_get? registered
  have other : d.summary.name ≠ name := by
    rintro rfl
    rw [free] at found
    contradiction
  rw [known, if_neg other, found]

/-- What is refused leaves no trace. -/
theorem registerAll_cons (r : Registry) (d : Definition) (later : List Definition) :
    r.registerAll (d :: later) = ((r.register d).toOption.getD r).registerAll later := rfl

theorem get?_registerAll (definitions : List Definition) (found : r.get? name = some c) :
    (r.registerAll definitions).get? name = some c := by
  induction definitions generalizing r with
  | nil => exact found
  | cons d later ih =>
    rw [registerAll_cons]
    cases registered : r.register d with
    | error e => exact ih found
    | ok next => exact ih (get?_register registered found)

/-! ### One after the other -/

theorem perm_insertSorted (new : Command) (commands : List Command) :
    (insertSorted new commands).Perm (new :: commands) := by
  induction commands with
  | nil => exact .refl _
  | cons first rest ih =>
    by_cases before : new.name < first.name
    · rw [insertSorted, if_pos before]
    · rw [insertSorted, if_neg before]
      exact (ih.cons first).trans (.swap new first rest)

theorem pairwise_insertSorted {new : Command} {commands : List Command}
    (fresh : ∀ c ∈ commands, c.name ≠ new.name) (sorted : commands.Pairwise (·.name < ·.name)) :
    (insertSorted new commands).Pairwise (·.name < ·.name) := by
  induction sorted with
  | nil => exact List.pairwise_singleton _ _
  | @cons first rest least sorted ih =>
    by_cases before : new.name < first.name
    · rw [insertSorted, if_pos before]
      refine .cons (fun c member => ?_) (.cons least sorted)
      rcases List.mem_cons.mp member with rfl | later
      · exact before
      · exact String.lt_trans before (least c later)
    · rw [insertSorted, if_neg before]
      have behind := ih fun c member => fresh c (List.mem_cons_of_mem first member)
      refine .cons (fun c member => ?_) behind
      rcases mem_insertSorted.mp member with rfl | later
      · exact Std.lt_of_le_of_ne (String.not_lt.mp before) (fresh first List.mem_cons_self)
      · exact least c later

theorem Holds.new : Holds new [] where
  sorted := List.pairwise_singleton _ _
  entries := ⟨[], .nil, .refl _⟩
  nameable := nofun
  help := rfl
  first name other := by
    rw [get?_eq_none_iff.mpr]
    · rfl
    · intro c member
      obtain rfl := List.mem_singleton.mp member
      exact other.symm

theorem Holds.compiles (holds : r.Holds before) (member : d ∈ before) : ∃ c, d.compile = .ok c := by
  obtain ⟨own, compiled, -⟩ := holds.entries
  obtain ⟨i, inside, rfl⟩ := List.mem_iff_getElem.mp member
  exact ⟨_, compiled.get inside (compiled.length_eq ▸ inside)⟩

/-- Under a name that no command has nothing has been accepted. -/
theorem Holds.find?_eq_none (holds : r.Holds before) (other : name ≠ helpName)
    (unknown : ∀ c ∈ r.commands, c.name ≠ name) :
    before.find? (·.summary.name == name) = none := by
  have absent := holds.first name other
  rw [get?_eq_none_iff.mpr unknown] at absent
  cases found : before.find? (·.summary.name == name) with
  | none => rfl
  | some d =>
    obtain ⟨c, compiles⟩ := holds.compiles (List.mem_of_find?_eq_some found)
    rw [found, Option.bind_some, compiles] at absent
    contradiction

theorem Holds.register (holds : r.Holds before) (registered : r.register d = .ok next) :
    next.Holds (before ++ [d]) := by
  have spec := r.register_spec d
  rw [registered] at spec
  obtain ⟨nameable, fresh, c, compiled, rfl⟩ := spec
  have named : c.name = d.summary.name :=
    congrArg Summary.name (Definition.compile_eq_ok compiled).1
  rw [← named] at fresh
  have found (name : String) := find?_insertSorted c r.commands name fresh
  have other : c.name ≠ helpName := named ▸ nameable.free
  refine ⟨pairwise_insertSorted fresh holds.sorted, ?_, ?_, ?_, ?_⟩
  · obtain ⟨own, definitions, entries⟩ := holds.entries
    refine ⟨own ++ [c], List.rel_append definitions (.cons compiled .nil), ?_⟩
    have front := (perm_insertSorted c r.commands).trans (entries.cons c)
    exact front.trans (List.perm_append_singleton c _).symm
  · intro e member
    rcases List.mem_append.mp member with old | new
    · exact holds.nameable e old
    · rwa [List.mem_singleton.mp new]
  · rw [get?, found, if_neg other]
    exact holds.help
  · intro name notHelp
    rw [get?, found, List.find?_append]
    by_cases same : c.name = name
    · have unknown := holds.find?_eq_none notHelp (same ▸ fresh)
      have here : (d.summary.name == name) = true := by rw [← named, same, beq_self_eq_true]
      rw [if_pos same, unknown, Option.none_or, List.find?_cons, here, Option.bind_some, compiled]
      rfl
    · have apart : (d.summary.name == name) = false := by rwa [← named, beq_eq_false_iff_ne]
      rw [if_neg same, List.find?_cons, apart, List.find?_nil, Option.or_none]
      exact holds.first name notHelp

theorem Holds.registerAll (holds : r.Holds before) (definitions : List Definition) :
    (r.registerAll definitions).Holds (before ++ r.accepted definitions) := by
  induction definitions generalizing r before with
  | nil =>
    rw [accepted, List.append_nil]
    exact holds
  | cons d later ih =>
    rw [registerAll_cons, accepted]
    cases registered : r.register d with
    | error e => exact ih holds
    | ok after =>
      have longer := ih (holds.register registered)
      rwa [List.append_assoc] at longer

theorem registerAll_append (r : Registry) (definitions later : List Definition) :
    r.registerAll (definitions ++ later) = (r.registerAll definitions).registerAll later :=
  List.foldl_append

theorem accepted_append (r : Registry) (definitions later : List Definition) :
    r.accepted (definitions ++ later) =
      r.accepted definitions ++ (r.registerAll definitions).accepted later := by
  induction definitions generalizing r with
  | nil => rfl
  | cons d definitions ih =>
    rw [List.cons_append, registerAll_cons, accepted, accepted]
    cases registered : r.register d with
    | error e => exact ih r
    | ok after =>
      rw [List.cons_append]
      exact congrArg (d :: ·) (ih after)

theorem Holds.visible (holds : r.Holds before) (member : c ∈ r.commands) :
    Text.allBlank c.name.toList = false := by
  obtain ⟨own, definitions, entries⟩ := holds.entries
  rcases List.mem_cons.mp (entries.mem_iff.mp member) with rfl | isOwn
  · rfl
  · obtain ⟨i, inside, rfl⟩ := List.mem_iff_getElem.mp isOwn
    have known : i < before.length := definitions.length_eq ▸ inside
    have compiled : before[i].compile = .ok own[i] := definitions.get known inside
    have nameable := holds.nameable _ (List.getElem_mem known)
    rw [Command.name, (Definition.compile_eq_ok compiled).1]
    exact nameable.visible

/-! ### What help shows -/

def listing (r : Registry) : String :=
  "Available commands:\n\n" ++ String.join (r.commands.map fun c =>
    c.name ++ ", " ++ c.summary.function ++ ",  " ++ c.summary.description ++ "\n")

theorem effect_help (catalogue : Catalogue) (values : Options.Values) (desk : Desk) :
    effect (LineEditor.help.handler catalogue values) desk =
      desk.shown ("Available commands:\n\n" ++ String.join (catalogue.commands.map Summary.line))
        .proceed := by
  exact Action.effect_bind_shown rfl fun sink =>
    Action.effect_shown_pure (Action.effect_printAll _ { desk with sink }) _

theorem effect_runCommand_help (known : r.get? helpName = some LineEditor.help)
    (said : readCommand command = .ok ⟨helpName, []⟩) (desk : Desk) :
    effect (runCommand r 0 command) desk = desk.shown r.listing .proceed := by
  have understood : LineEditor.help.grammar.read [] = .ok ⟨[]⟩ := rfl
  have lines : r.catalogue.commands.map Summary.line = r.commands.map fun c =>
      c.name ++ ", " ++ c.summary.function ++ ",  " ++ c.summary.description ++ "\n" := List.map_map
  rw [effect_runCommand_handled 0 desk said known understood, effect_help, lines]
  rfl

/-- The list of commands is shown behind any ranges that may be nested, and nothing is behind more. -/
theorem effect_execute_help {inner : Buffer} (known : r.get? helpName = some LineEditor.help)
    (desk : Desk) (text : String) (valid : desk.buffer.Valid)
    (nested : Nested desk.buffer text.toList ranges inner command)
    (said : readCommand command = .ok ⟨helpName, []⟩) :
    effect (execute r text) desk =
      if ranges.length < maxDepth then (desk.settled text.toList).shown r.listing .proceed
      else (.error .nestingTooDeep, desk.settled text.toList) := by
  have nonblank := nonblank_of_readCommand said
  have plain := inner.range_of_readCommand said rfl
  by_cases few : ranges.length < maxDepth
  · rw [if_pos few]
    exact effect_executeAt_shows nested valid (Nat.le_of_lt_succ few) nonblank plain
      (effect_runCommand_help known said _)
  · rw [if_neg few]
    exact effect_executeAt_tooMany nested (Nat.not_lt.mp few) nonblank

/-- After any definitions the registry refuses another one exactly for a name that is blank, that of help
or known, or for arguments that cannot be declared, and tells the first of these. What it refuses leaves
no trace, so each name belongs to the first definition accepted under it and `h` to help, no name is
blank, the commands are help and what has been accepted in ascending order of names, and help lists
exactly these, behind ranges too. -/
theorem registerAll_firstCome (definitions : List Definition) :
    let r := new.registerAll definitions
    let accepted := new.accepted definitions
    (∀ d,
      (∀ e, r.register d = .error e ↔ r.Refuses d e) ∧
      ((∃ e, r.register d = .error e) ↔
        Text.allBlank d.summary.name.toList = true ∨ d.summary.name = helpName ∨
          (∃ c ∈ r.commands, c.name = d.summary.name) ∨ ¬ Declarable d.arguments) ∧
      (∀ e, r.register d = .error e →
        new.registerAll (definitions ++ [d]) = r ∧ new.accepted (definitions ++ [d]) = accepted) ∧
      (∀ next, r.register d = .ok next →
        new.registerAll (definitions ++ [d]) = next ∧
          new.accepted (definitions ++ [d]) = accepted ++ [d])) ∧
    (∀ name, name ≠ helpName →
      r.get? name = (accepted.find? (·.summary.name == name)).bind (·.compile.toOption)) ∧
    r.get? helpName = some LineEditor.help ∧
    (∀ c ∈ r.commands, Text.allBlank c.name.toList = false) ∧
    r.commands.Pairwise (·.name < ·.name) ∧
    (∃ own, List.Forall₂ (fun d c => d.compile = .ok c) accepted own ∧
      r.commands.Perm (LineEditor.help :: own)) ∧
    (∀ (desk : Desk) (text : String) (ranges : List ParsedRange) (inner : Buffer)
        (command : List Char), desk.buffer.Valid →
      Nested desk.buffer text.toList ranges inner command →
      readCommand command = .ok ⟨helpName, []⟩ →
      effect (execute r text) desk =
        if ranges.length < maxDepth then
          (desk.settled text.toList).shown ("Available commands:\n\n" ++
            String.join (r.commands.map fun c =>
              c.name ++ ", " ++ c.summary.function ++ ",  " ++ c.summary.description ++ "\n"))
            .proceed
        else (.error .nestingTooDeep, desk.settled text.toList)) := by
  intro r accepted
  have holds : r.Holds accepted := Holds.new.registerAll definitions
  refine ⟨fun d => ⟨fun e => register_eq_error_iff, ?_, fun e refused => ?_, fun next taken => ?_⟩,
    holds.first, holds.help, fun c member => holds.visible member, holds.sorted, holds.entries,
    fun desk text ranges inner command valid nested said =>
      effect_execute_help holds.help desk text valid nested said⟩
  · simp only [register_eq_error_iff]
    exact exists_refuses_iff
  · have here : (new.registerAll definitions).register d = .error e := refused
    refine ⟨?_, ?_⟩
    · rw [registerAll_append, registerAll_cons, here]
      rfl
    · rw [accepted_append, Registry.accepted, here]
      exact List.append_nil _
  · have here : (new.registerAll definitions).register d = .ok next := taken
    refine ⟨?_, ?_⟩
    · rw [registerAll_append, registerAll_cons, here]
      rfl
    · rw [accepted_append, Registry.accepted, here]
      rfl

/-- Of six definitions two are accepted. A repeated name comes before the arguments that are wrong as
well. -/
theorem registerAll_firstCome_of_six :
    let define (name : String) (arguments : List Options.Descriptor) : Definition :=
      ⟨⟨name, "act", "Does it."⟩, arguments, fun _ _ => return .proceed⟩
    let wrong : List Options.Descriptor := [⟨"help", .text, true, none, ""⟩]
    let definitions := [define "x" [], define " " [], define "h" wrong, define "x" wrong,
      define "y" wrong, define "a" []]
    let r := new.registerAll definitions
    let desk : Desk := ⟨.ofLines ["1", "2", "3"], ⟨[], []⟩, .unlimited⟩
    (∃ e, r.register (define "x" wrong) = .error e) ∧
      r.register (define "x" wrong) = .error (.duplicate "x") ∧
      new.registerAll (definitions ++ [define "x" wrong]) = r ∧
      (r.get? "x").map (·.grammar.named) = some [] ∧
      effect (execute r "2;,h") desk =
        Desk.shown { desk with buffer := desk.buffer.moveTo 1 }
          "Available commands:\n\na, act,  Does it.\nh, help,  Print help message for all commands.\nx, act,  Does it.\n"
          .proceed := by
  intro define wrong definitions r desk
  obtain ⟨calls, first, -, -, -, -, shown⟩ := registerAll_firstCome definitions
  obtain ⟨refused, -, kept, -⟩ := calls (define "x" wrong)
  have nameable : (define "x" wrong).Nameable := ⟨by decide +kernel, by decide +kernel⟩
  have known : ∃ c ∈ r.commands, c.name = "x" := by decide +kernel
  have duplicate : r.register (define "x" wrong) = .error (.duplicate "x") :=
    (refused _).mpr (.duplicate nameable known)
  let outer : ParsedRange := ⟨",h".toList, ⟨1, 3⟩, some 1⟩
  let next : ParsedRange := ⟨"h".toList, ⟨0, 2⟩, none⟩
  have behind : Nested ⟨["2", "3"], some 1, 2, none, .lf⟩ outer.rest [next]
      ⟨["2", "3"], some 1, 2, none, .lf⟩ "h".toList :=
    .range (by decide +kernel) (by decide +kernel) .command
  have nested : Nested desk.buffer "2;,h".toList [outer, next]
      ⟨["2", "3"], some 1, 2, none, .lf⟩ "h".toList :=
    .range (by decide +kernel) (by decide +kernel) behind
  have own := congrArg (Option.map (·.grammar.named)) (first "x" (by decide +kernel))
  have listed := shown desk "2;,h" [outer, next] _ _ (by decide) nested (by decide +kernel)
  have settled : desk.settled "2;,h".toList = { desk with buffer := desk.buffer.moveTo 1 } := by
    have cursor : desk.buffer.cursorAfter "2;,h".toList = some 1 := by decide +kernel
    rw [Desk.settled, cursor]
    rfl
  rw [if_pos (by decide), settled] at listed
  refine ⟨⟨_, duplicate⟩, duplicate, (kept _ duplicate).1, own.trans (by decide +kernel), ?_⟩
  exact listed.trans (congrArg (Desk.shown _ · Flow.proceed) (by decide +kernel))

end Registry
end LineEditor
