import LineEditor.Proofs.Given

/-! Calls of a command whose arguments are described by a list. Options are given as `--name=value`, in any
order, and the positional values follow behind `--`. If the values are right, each of them is what the getter
of its kind returns, and if not, the call is a mistake. -/
namespace LineEditor.Options

def Descriptor.given (d : Descriptor) (word : String) : Argument :=
  ⟨d.name, d.kind, word⟩

def positional (descriptors : List Descriptor) : List Descriptor :=
  descriptors.filter (!·.optional)

def given (options : List (Descriptor × String)) : List Argument :=
  options.map fun o => o.1.given o.2

theorem names_given (options : List (Descriptor × String)) :
    (given options).map (·.name) = (options.map (·.1)).map (·.name) := by
  rw [given, List.map_map, List.map_map]
  rfl

/-- The arguments that there are in the end: the options given, the positional values in the order of their
descriptions, and the fallbacks of the other options. -/
inductive Provided (descriptors : List Descriptor) (options : List (Descriptor × String))
    (values : List String) : Argument → Prop where
  | option : (d, word) ∈ options → Provided descriptors options values (d.given word)
  | positional : (d, word) ∈ (positional descriptors).zip values →
      Provided descriptors options values (d.given word)
  | fallback : d ∈ descriptors → d.optional = true → d ∉ options.map (·.1) → d.fallback = some word →
      Provided descriptors options values (d.given word)

/-- No option is given twice, there is one positional value for each description, and all words fit. -/
structure Admissible (descriptors : List Descriptor) (options : List (Descriptor × String))
    (values : List String) : Prop where
  distinct : (options.map (·.1)).Nodup
  number : values.length = (positional descriptors).length
  fit : ∀ a, Provided descriptors options values a → a.kind.Fits a.word

/-- The getter of the argument's own kind returns the value that the word denotes, and the other getters
return nothing. -/
def Values.Holds (found : Values) (a : Argument) : Prop :=
  ∃ value, a.kind.Denotes a.word value ∧ found.answers a.name = Value.answers (some value)

def Values.Lacks (found : Values) (name : String) : Prop :=
  found.answers name = Value.answers none

/-- All arguments there are have been found, and nothing of an option that is left out without a fallback or
under any other name. -/
structure Values.Complete (found : Values) (descriptors : List Descriptor)
    (options : List (Descriptor × String)) (values : List String) : Prop where
  provided : ∀ a, Provided descriptors options values a → found.Holds a
  omitted : ∀ d ∈ descriptors, d.optional = true → d ∉ options.map (·.1) → d.fallback = none →
    found.Lacks d.name
  others : ∀ name, (∀ d ∈ descriptors, d.name ≠ name) → found.Lacks name

/-! ### What has been found -/

namespace Argument

theorem mem_of_found {arguments : List Argument} {entries : List (String × Value)}
    (found : List.Forall₂ Found arguments entries) (member : a ∈ arguments) :
    ∃ entry ∈ entries, a.Found entry := by
  induction found with
  | nil => contradiction
  | cons here _ ih =>
    rcases List.mem_cons.mp member with rfl | member
    · exact ⟨_, List.mem_cons_self, here⟩
    · obtain ⟨entry, inside, found⟩ := ih member
      exact ⟨entry, List.mem_cons_of_mem _ inside, found⟩

end Argument

variable {found : Values} {arguments : List Argument}

theorem Values.holds_of_found (all : List.Forall₂ Argument.Found arguments found.found)
    (distinct : (arguments.map (·.name)).Nodup) (member : a ∈ arguments) : found.Holds a := by
  obtain ⟨⟨name, value⟩, inside, same, denotes⟩ := Argument.mem_of_found all member
  obtain rfl : name = a.name := same
  have names : found.names.Nodup := by
    rw [names, Argument.names_of_found all]
    exact distinct
  exact ⟨value, denotes, by rw [answers_eq, get?_of_mem names inside]⟩

theorem Values.lacks_of_found (all : List.Forall₂ Argument.Found arguments found.found)
    (absent : name ∉ arguments.map (·.name)) : found.Lacks name := by
  have names : found.names = arguments.map (·.name) := Argument.names_of_found all
  rw [Lacks, answers_eq, get?_of_not_mem (names.symm ▸ absent)]

/-! ### From descriptions to a grammar -/

variable {descriptors : List Descriptor} {options : List (Descriptor × String)}
  {words values : List String} {g : Grammar}

theorem ofDescriptors_regular (accepted : Grammar.ofDescriptors command about descriptors = .ok g) :
    g.Regular := by
  constructor
  · have split : (g.named.map (·.name) ++ g.positionals.map (·.name)).Perm (descriptors.map (·.name)) := by
      rw [ofDescriptors_names accepted, ofDescriptors_positionals accepted, List.map_map]
      have both := (List.filter_append_perm (·.optional) descriptors).map Descriptor.name
      rwa [List.map_append] at both
    exact split.nodup_iff.mpr (exists_ofDescriptors_iff.mp ⟨g, accepted⟩).distinct
  · intro p member
    rw [ofDescriptors_positionals accepted] at member
    obtain ⟨d, -, rfl⟩ := List.mem_map.mp member
    rfl

/-- Descriptions with the same name are the same. -/
theorem eq_of_name (accepted : Grammar.ofDescriptors command about descriptors = .ok g)
    (member : d ∈ descriptors) (other : e ∈ descriptors) (same : d.name = e.name) : d = e :=
  List.inj_on_of_nodup_map (exists_ofDescriptors_iff.mp ⟨g, accepted⟩).distinct member other same

theorem length_positionals (accepted : Grammar.ofDescriptors command about descriptors = .ok g) :
    g.positionals.length = (positional descriptors).length := by
  rw [ofDescriptors_positionals accepted, List.length_map]
  rfl

/-- The positional values are given for the descriptions in order. -/
theorem placed_eq (accepted : Grammar.ofDescriptors command about descriptors = .ok g) :
    List.zipWith Positional.given g.positionals values =
      ((positional descriptors).zip values).map fun o => o.1.given o.2 := by
  rw [ofDescriptors_positionals accepted, List.zipWith_map_left, List.map_zip_eq_zipWith]
  rfl

theorem mem_arguments_iff (accepted : Grammar.ofDescriptors command about descriptors = .ok g)
    (described : ∀ o ∈ options, o.1 ∈ descriptors) :
    a ∈ g.arguments (given options) values ↔ Provided descriptors options values a := by
  have known (d : Descriptor) (member : d ∈ descriptors) :
      d.name ∈ (options.map (·.1)).map (·.name) ↔ d ∈ options.map (·.1) := by
    refine ⟨fun named => ?_, List.mem_map_of_mem⟩
    obtain ⟨other, inside, same⟩ := List.mem_map.mp named
    obtain ⟨o, option, rfl⟩ := List.mem_map.mp inside
    rwa [← eq_of_name accepted (described o option) member same]
  rw [Grammar.arguments, List.mem_append, List.mem_append, placed_eq accepted, names_given,
    Grammar.mem_omitted_iff]
  constructor
  · rintro ((option | positional) | ⟨o, inside, unknown, word, fallback, rfl⟩)
    · obtain ⟨⟨d, word⟩, inside, rfl⟩ := List.mem_map.mp option
      exact .option inside
    · obtain ⟨⟨d, word⟩, inside, rfl⟩ := List.mem_map.mp positional
      exact .positional inside
    · obtain ⟨d, member, optional, same⟩ := descriptor_of_mem_named accepted inside
      rw [same] at unknown fallback ⊢
      exact .fallback member optional (mt (known d member).mpr unknown) fallback
  · intro provided
    cases provided with
    | option inside => exact .inl (.inl (List.mem_map.mpr ⟨_, inside, rfl⟩))
    | positional inside => exact .inl (.inr (List.mem_map.mpr ⟨_, inside, rfl⟩))
    | @fallback d word member optional unknown fallback =>
      obtain ⟨short, inside⟩ := exists_named_of_mem accepted member optional
      exact .inr ⟨d.toNamed short, inside, mt (known d member).mp unknown, word, fallback, rfl⟩

/-- The conditions on a call are those under which its words are understood. -/
theorem admissible_iff (accepted : Grammar.ofDescriptors command about descriptors = .ok g)
    (described : ∀ o ∈ options, o.1 ∈ descriptors) : Admissible descriptors options values ↔
      ((given options).map (·.name)).Nodup ∧ values.length = g.positionals.length ∧
        ∀ a ∈ g.arguments (given options) values, a.kind.Fits a.word := by
  have distinct : ((given options).map (·.name)).Nodup ↔ (options.map (·.1)).Nodup := by
    rw [names_given]
    refine ⟨.of_map _, List.Nodup.map_on fun d member e other same => ?_⟩
    obtain ⟨o, first, rfl⟩ := List.mem_map.mp member
    obtain ⟨q, second, rfl⟩ := List.mem_map.mp other
    exact eq_of_name accepted (described o first) (described q second) same
  have provided (a : Argument) : a ∈ g.arguments (given options) values ↔ _ :=
    mem_arguments_iff accepted described
  rw [distinct, length_positionals accepted]
  constructor
  · rintro ⟨distinct, number, fit⟩
    exact ⟨distinct, number, fun a member => fit a ((provided a).mp member)⟩
  · rintro ⟨distinct, number, fit⟩
    exact ⟨distinct, number, fun a there => fit a ((provided a).mpr there)⟩

/-- Something is provided for a name only by its description. -/
theorem Provided.origin (described : ∀ o ∈ options, o.1 ∈ descriptors)
    (provided : Provided descriptors options values a) : ∃ d ∈ descriptors, d.name = a.name ∧
      (d ∈ options.map (·.1) ∨ d.optional = false ∨ d.fallback ≠ none) := by
  cases provided with
  | option inside => exact ⟨_, described _ inside, rfl, .inl (List.mem_map_of_mem inside)⟩
  | positional inside =>
    obtain ⟨member, required⟩ := List.mem_filter.mp (List.of_mem_zip inside).1
    exact ⟨_, member, rfl, .inr (.inl (by simpa using required))⟩
  | fallback member _ _ fallback => exact ⟨_, member, rfl, .inr (.inr (by simp [fallback]))⟩

theorem Values.complete_of_found (accepted : Grammar.ofDescriptors command about descriptors = .ok g)
    (described : ∀ o ∈ options, o.1 ∈ descriptors)
    (distinct : ((g.arguments (given options) values).map (·.name)).Nodup)
    (all : List.Forall₂ Argument.Found (g.arguments (given options) values) found.found) :
    found.Complete descriptors options values := by
  have origin {name : String} (named : name ∈ (g.arguments (given options) values).map (·.name)) :
      ∃ d ∈ descriptors, d.name = name ∧
        (d ∈ options.map (·.1) ∨ d.optional = false ∨ d.fallback ≠ none) := by
    obtain ⟨a, member, rfl⟩ := List.mem_map.mp named
    exact ((mem_arguments_iff accepted described).mp member).origin described
  constructor
  · intro a provided
    exact holds_of_found all distinct ((mem_arguments_iff accepted described).mpr provided)
  · intro d member optional absent fallback
    refine lacks_of_found all fun named => ?_
    obtain ⟨e, other, same, reason⟩ := origin named
    obtain rfl : e = d := eq_of_name accepted other member same
    rcases reason with inside | required | some
    · exact absent inside
    · exact Bool.noConfusion (optional.symm.trans required)
    · exact some fallback
  · intro name undeclared
    refine lacks_of_found all fun named => ?_
    obtain ⟨d, member, same, -⟩ := origin named
    exact undeclared d member same

theorem declares_of_mem_given (accepted : Grammar.ofDescriptors command about descriptors = .ok g)
    (declared : ∀ o ∈ options, o.1 ∈ descriptors ∧ o.1.optional = true ∧ '=' ∉ o.1.name.toList)
    (member : a ∈ given options) : g.Declares a := by
  obtain ⟨o, inside, rfl⟩ := List.mem_map.mp member
  obtain ⟨described, optional, plain⟩ := declared o inside
  obtain ⟨short, named⟩ := exists_named_of_mem accepted described optional
  exact ⟨plain, o.1.toNamed short, named, rfl⟩

/-- Exactly the admissible calls are understood. -/
theorem exists_read_iff (accepted : Grammar.ofDescriptors command about descriptors = .ok g)
    (declared : ∀ o ∈ options, o.1 ∈ descriptors ∧ o.1.optional = true ∧ '=' ∉ o.1.name.toList)
    (places : Places words values) :
    (∃ found, g.read ((given options).map Argument.attached ++ words) = .ok found) ↔
      Admissible descriptors options values := by
  have read := Grammar.read_given_iff (ofDescriptors_regular accepted)
    (fun _ => declares_of_mem_given accepted declared) places
  rw [admissible_iff accepted fun o member => (declared o member).1]
  constructor
  · rintro ⟨found, understood⟩
    obtain ⟨distinct, number, all⟩ := (read found).mp understood
    exact ⟨distinct, number, Argument.exists_found_iff.mp ⟨_, all⟩⟩
  · rintro ⟨distinct, number, fit⟩
    obtain ⟨entries, all⟩ := Argument.exists_found_iff.mpr fit
    exact ⟨⟨entries⟩, (read ⟨entries⟩).mpr ⟨distinct, number, all⟩⟩

theorem complete_of_read (accepted : Grammar.ofDescriptors command about descriptors = .ok g)
    (declared : ∀ o ∈ options, o.1 ∈ descriptors ∧ o.1.optional = true ∧ '=' ∉ o.1.name.toList)
    (places : Places words values)
    (understood : g.read ((given options).map Argument.attached ++ words) = .ok found) :
    found.Complete descriptors options values := by
  have regular := ofDescriptors_regular accepted
  have declares : ∀ a ∈ given options, g.Declares a := fun _ => declares_of_mem_given accepted declared
  obtain ⟨distinct, -, all⟩ := (Grammar.read_given_iff regular declares places found).mp understood
  have names := Grammar.arguments_nodup regular declares distinct values
  exact Values.complete_of_found accepted (fun o member => (declared o member).1) names all

/-- A call of a command whose descriptions are accepted is understood if it is admissible, whatever the order
of its options. Then the getters return the values given, and the fallbacks of the options left out, each by
the kind of its argument alone, and nothing else. Any other call is refused as a mistake, such as one with an
option that is given twice, or with a positional value too few or too many. -/
theorem read_arguments (accepted : Grammar.ofDescriptors command about descriptors = .ok g)
    (declared : ∀ o ∈ options, o.1 ∈ descriptors ∧ o.1.optional = true ∧ '=' ∉ o.1.name.toList)
    (places : Places words values) :
    (Admissible descriptors options values → ∃ found,
        g.read ((given options).map Argument.attached ++ words) = .ok found ∧
          found.Complete descriptors options values) ∧
      (¬ Admissible descriptors options values → ∃ e,
        g.read ((given options).map Argument.attached ++ words) = .error (.failed e)) := by
  constructor
  · intro admissible
    obtain ⟨found, understood⟩ := (exists_read_iff accepted declared places).mpr admissible
    exact ⟨found, understood, complete_of_read accepted declared places understood⟩
  · intro refused
    cases result : g.read ((given options).map Argument.attached ++ words) with
    | error stop =>
      obtain ⟨e, rfl⟩ := Grammar.mistaken_read (ofDescriptors_regular accepted)
        (fun _ => declares_of_mem_given accepted declared) places stop result
      exact ⟨e, rfl⟩
    | ok found => exact (refused ((exists_read_iff accepted declared places).mp ⟨found, result⟩)).elim

/-- Values may look like options and may contain what separates them from names. -/
theorem read_arguments_dashes :
    let count : Descriptor := ⟨"count", .integer, true, some "1", ""⟩
    let text : Descriptor := ⟨"text", .text, false, none, ""⟩
    let scale : Descriptor := ⟨"scale", .float, true, none, ""⟩
    let label : Descriptor := ⟨"label", .text, true, none, ""⟩
    ∃ g found, Grammar.ofDescriptors "x" "test" [count, text, scale, label] = .ok g ∧
      g.read ["--label=a=b", "--", "--count=2"] = .ok found ∧
      found.answers "label" = (some "a=b", none, none) ∧
      found.answers "text" = (some "--count=2", none, none) ∧
      found.answers "count" = (none, some 1, none) ∧ found.answers "scale" = (none, none, none) := by
  intro count text scale label
  have declarable : Declarable [count, text, scale, label] := ⟨by decide, by decide⟩
  obtain ⟨g, accepted⟩ : ∃ g, Grammar.ofDescriptors "x" "test" [count, text, scale, label] = .ok g :=
    exists_ofDescriptors_iff.mpr declarable
  have read : Kind.integer.read "" "1" = .ok (.integer 1) := by decide
  have one : Kind.integer.Denotes "1" (.integer 1) := Kind.read_eq_ok_iff.mp read
  have admissible : Admissible [count, text, scale, label] [(label, "a=b")] ["--count=2"] := by
    refine ⟨by decide, by decide, fun a provided => ?_⟩
    cases provided with
    | option inside =>
      cases List.mem_singleton.mp inside
      exact ⟨_, .text "a=b"⟩
    | positional inside =>
      cases List.mem_singleton.mp inside
      exact ⟨_, .text "--count=2"⟩
    | @fallback d word member _ _ fallback =>
      have none : ∀ d ∈ [text, scale, label], d.fallback = none := by decide
      rcases List.mem_cons.mp member with rfl | other
      · cases fallback
        exact ⟨_, one⟩
      · rw [none d other] at fallback
        contradiction
  have declared : ∀ o ∈ [(label, "a=b")], o.1 ∈ [count, text, scale, label] ∧ o.1.optional = true ∧
      '=' ∉ o.1.name.toList := by decide
  obtain ⟨found, read, complete⟩ := (read_arguments accepted declared (.marked ["--count=2"])).1 admissible
  refine ⟨g, found, accepted, read, ?_, ?_, ?_, ?_⟩
  · obtain ⟨value, denotes, holds⟩ := complete.provided (label.given "a=b") (.option (by decide))
    cases denotes
    exact holds
  · obtain ⟨value, denotes, holds⟩ := complete.provided (text.given "--count=2") (.positional (by decide))
    cases denotes
    exact holds
  · obtain ⟨value, denotes, holds⟩ := complete.provided (count.given "1")
      (.fallback (by decide) rfl (by decide) rfl)
    rwa [denotes.unique one] at holds
  · exact complete.omitted scale (by decide) rfl (by decide) rfl

end LineEditor.Options
