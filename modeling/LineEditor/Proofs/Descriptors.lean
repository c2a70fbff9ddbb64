import LineEditor.Options.Grammar
import LineEditor.Proofs.Action
import Mathlib.Data.List.Nodup

/-! Which descriptions of arguments can be declared together, and what is said about the others. Of the
names and letters that are spoken for none is given away: `--help` and `-h` always ask for help. -/
namespace LineEditor.Options

structure Declarable (descriptors : List Descriptor) : Prop where
  named : ∀ d ∈ descriptors, d.name ≠ "" ∧ d.name ≠ "help"
  distinct : (descriptors.map (·.name)).Nodup

/-- The first mistake in a list of descriptions: those in front of it can be declared together. -/
inductive FirstMistake : List Descriptor → DescriptorError → Prop where
  | name : Declarable front → d.name = "" ∨ d.name = "help" →
      FirstMistake (front ++ d :: later) (.invalidName d.name)
  | repeated : Declarable front → d.name ∈ front.map (·.name) →
      FirstMistake (front ++ d :: later) (.duplicate d.name)

def Descriptor.place (d : Descriptor) (letters : List Char) (sorted : List Named × List Positional) :
    List Named × List Positional :=
  if d.optional then (d.toNamed (freeLetter letters d.name) :: sorted.1, sorted.2)
  else (sorted.1, d.toPositional :: sorted.2)

def Descriptor.taking (d : Descriptor) (letters : List Char) : List Char :=
  if d.optional then (freeLetter letters d.name).toList ++ letters else letters

variable {names : List String} {letters : List Char} {d : Descriptor}
  {front rest descriptors : List Descriptor}

theorem arrange_cons_name (wrong : d.name = "" ∨ d.name = "help") :
    arrange names letters (d :: rest) = .error (.invalidName d.name) := by
  have refused : (d.name.isEmpty || d.name == "help") = true := by
    simpa [String.isEmpty_iff] using wrong
  rw [arrange, refused]
  rfl

theorem arrange_cons_repeated (named : d.name ≠ "" ∧ d.name ≠ "help") (known : d.name ∈ names) :
    arrange names letters (d :: rest) = .error (.duplicate d.name) := by
  have accepted : (d.name.isEmpty || d.name == "help") = false := by simp [named]
  have refused : names.contains d.name = true := List.contains_iff_mem.mpr known
  rw [arrange, accepted, refused]
  rfl

theorem arrange_cons (named : d.name ≠ "" ∧ d.name ≠ "help") (fresh : d.name ∉ names) :
    arrange names letters (d :: rest) =
      (arrange (d.name :: names) (d.taking letters) rest).map (d.place letters) := by
  have accepted : (d.name.isEmpty || d.name == "help") = false := by simp [named]
  have unknown : names.contains d.name = false := by simpa using fresh
  rw [arrange, accepted, unknown, Descriptor.taking]
  cases place : d.optional with
  | true =>
    simp only [Bool.false_eq_true, if_false, if_true]
    cases arrange (d.name :: names) ((freeLetter letters d.name).toList ++ letters) rest with
    | error e => rfl
    | ok sorted => simp [Except.map, Descriptor.place, place, bind, Except.bind, pure, Except.pure]
  | false =>
    simp only [Bool.false_eq_true, if_false]
    cases arrange (d.name :: names) letters rest with
    | error e => rfl
    | ok sorted => simp [Except.map, Descriptor.place, place, bind, Except.bind, pure, Except.pure]

/-- A list of descriptions is sorted only if none of them is wrong. -/
theorem arrange_cons_eq_ok (arranged : arrange names letters (d :: rest) = .ok sorted) :
    (d.name ≠ "" ∧ d.name ≠ "help") ∧ d.name ∉ names ∧
      ∃ behind, arrange (d.name :: names) (d.taking letters) rest = .ok behind ∧
        sorted = d.place letters behind := by
  by_cases wrong : d.name = "" ∨ d.name = "help"
  · rw [arrange_cons_name wrong] at arranged
    contradiction
  have named := not_or.mp wrong
  by_cases repeated : d.name ∈ names
  · rw [arrange_cons_repeated named repeated] at arranged
    contradiction
  rw [arrange_cons named repeated] at arranged
  obtain ⟨behind, found, rfl⟩ := except_map_eq_ok_iff.mp arranged
  exact ⟨named, repeated, behind, found, rfl⟩

theorem Declarable.nil : Declarable [] :=
  ⟨nofun, List.nodup_nil⟩

theorem Declarable.concat (declarable : Declarable front) (named : d.name ≠ "" ∧ d.name ≠ "help")
    (fresh : d.name ∉ front.map (·.name)) : Declarable (front ++ [d]) := by
  constructor
  · intro e member
    rcases List.mem_append.mp member with old | new
    · exact declarable.named e old
    · rwa [List.mem_singleton.mp new]
  · rw [List.map_append, List.map_singleton]
    exact List.nodup_append_comm.mp (List.nodup_cons.mpr ⟨fresh, declarable.distinct⟩)

/-- What has been read of a list, of which only the names matter, can be declared together; then all of
it can be, or the mistake is the first one. -/
theorem arrange_spec (names : List String) (letters : List Char) (rest : List Descriptor)
    (declarable : Declarable front) (known : ∀ name, name ∈ names ↔ name ∈ front.map (·.name)) :
    match arrange names letters rest with
    | .ok _ => Declarable (front ++ rest)
    | .error e => FirstMistake (front ++ rest) e := by
  induction rest generalizing front names letters with
  | nil => simpa [arrange] using declarable
  | cons d rest ih =>
    by_cases wrong : d.name = "" ∨ d.name = "help"
    · rw [arrange_cons_name wrong]
      exact .name declarable wrong
    have named : d.name ≠ "" ∧ d.name ≠ "help" := not_or.mp wrong
    by_cases repeated : d.name ∈ names
    · rw [arrange_cons_repeated named repeated]
      exact .repeated declarable ((known d.name).mp repeated)
    have longer := declarable.concat named (mt (known d.name).mpr repeated)
    have behind := ih (d.name :: names) (d.taking letters) longer (by
      intro name
      simp [known, or_comm])
    rw [List.append_assoc, List.singleton_append] at behind
    rw [arrange_cons named repeated]
    cases sorted : arrange (d.name :: names) (d.taking letters) rest with
    | error e => rwa [sorted] at behind
    | ok found => rwa [sorted] at behind

theorem FirstMistake.not_declarable (mistake : FirstMistake descriptors e) :
    ¬ Declarable descriptors := by
  intro declarable
  cases mistake with
  | name _ wrong =>
    have named := declarable.named _ (List.mem_append_right _ List.mem_cons_self)
    exact wrong.elim named.1 named.2
  | repeated _ known =>
    have distinct := declarable.distinct
    rw [List.map_append, List.nodup_append] at distinct
    exact distinct.2.2 _ known _ List.mem_cons_self rfl

/-- Descriptions that can be declared together do not hide a mistake behind them. -/
theorem arrange_append_error (done : List Descriptor) (names : List String) (letters : List Char)
    (declarable : Declarable (done ++ front))
    (known : ∀ name, name ∈ names ↔ name ∈ done.map (·.name))
    (refused : ∀ names letters, (∀ name, name ∈ names ↔ name ∈ (done ++ front).map (·.name)) →
      arrange names letters rest = .error e) :
    arrange names letters (front ++ rest) = .error e := by
  induction front generalizing done names letters with
  | nil =>
    apply refused
    rwa [List.append_nil]
  | cons d front ih =>
    have named := declarable.named d (List.mem_append_right done List.mem_cons_self)
    have distinct := declarable.distinct
    rw [List.map_append, List.nodup_append] at distinct
    have fresh : d.name ∉ names := by
      intro member
      exact distinct.2.2 _ ((known d.name).mp member) _ List.mem_cons_self rfl
    have split : done ++ d :: front = done ++ [d] ++ front := by simp
    rw [split] at declarable refused
    have behind := ih (done ++ [d]) (d.name :: names) (d.taking letters) declarable (by
      intro name
      simp [known, or_comm]) refused
    rw [List.cons_append, arrange_cons named fresh, behind]
    rfl

theorem arrange_of_firstMistake (mistake : FirstMistake descriptors e) (letters : List Char) :
    arrange [] letters descriptors = .error e := by
  cases mistake with
  | name declarable wrong =>
    exact arrange_append_error [] [] letters declarable (fun _ => Iff.rfl) fun _ _ _ =>
      arrange_cons_name wrong
  | @repeated front d later declarable known =>
    obtain ⟨same, member, equal⟩ := List.mem_map.mp known
    have named : d.name ≠ "" ∧ d.name ≠ "help" := equal ▸ declarable.named same member
    exact arrange_append_error [] [] letters declarable (fun _ => Iff.rfl) fun _ _ names =>
      arrange_cons_repeated named ((names d.name).mpr known)

theorem ofDescriptors_spec (command about : String) (descriptors : List Descriptor) :
    match Grammar.ofDescriptors command about descriptors with
    | .ok _ => Declarable descriptors
    | .error e => FirstMistake descriptors e := by
  have spec := arrange_spec [] ['h'] descriptors .nil fun _ => Iff.rfl
  unfold Grammar.ofDescriptors
  cases sorted : arrange [] ['h'] descriptors with
  | error e => rwa [sorted] at spec
  | ok found => rwa [sorted] at spec

theorem exists_ofDescriptors_iff :
    (∃ g, Grammar.ofDescriptors command about descriptors = .ok g) ↔ Declarable descriptors := by
  have spec := ofDescriptors_spec command about descriptors
  constructor
  · rintro ⟨g, accepted⟩
    rwa [accepted] at spec
  · intro declarable
    cases sorted : Grammar.ofDescriptors command about descriptors with
    | ok g => exact ⟨g, rfl⟩
    | error e =>
      rw [sorted] at spec
      exact (spec.not_declarable declarable).elim

/-- A list of descriptions is refused for its first mistake. -/
theorem ofDescriptors_eq_error_iff :
    Grammar.ofDescriptors command about descriptors = .error e ↔ FirstMistake descriptors e := by
  constructor
  · intro refused
    have spec := ofDescriptors_spec command about descriptors
    rwa [refused] at spec
  · intro mistake
    rw [Grammar.ofDescriptors, arrange_of_firstMistake mistake]
    rfl

/-! ### What is spoken for -/

def Grammar.Apart (g : Grammar) : Prop :=
  ∀ o ∈ g.named, o.name ≠ "help" ∧ o.short ≠ some 'h'

theorem freeLetter_not_mem (given : freeLetter letters name = some c) : c ∉ letters := by
  unfold freeLetter at given
  split at given
  · split at given
    · cases given
      simp_all
    · contradiction
  · contradiction

/-- No option has the name of help or a letter that was taken before. -/
theorem arrange_apart (names : List String) (letters : List Char)
    (arranged : arrange names letters descriptors = .ok sorted) :
    ∀ o ∈ sorted.1, o.name ≠ "help" ∧ ∀ c ∈ o.short, c ∉ letters := by
  induction descriptors generalizing names letters sorted with
  | nil =>
    cases arranged
    nofun
  | cons d rest ih =>
    obtain ⟨named, -, behind, found, rfl⟩ := arrange_cons_eq_ok arranged
    have later : ∀ o ∈ behind.1, o.name ≠ "help" ∧ ∀ c ∈ o.short, c ∉ letters := by
      intro o member
      obtain ⟨other, apart⟩ := ih _ _ found o member
      refine ⟨other, fun c short taken => apart c short ?_⟩
      unfold Descriptor.taking
      split
      · exact List.mem_append_right _ taken
      · exact taken
    intro o member
    unfold Descriptor.place at member
    split at member
    · rcases List.mem_cons.mp member with rfl | member
      · exact ⟨named.2, fun c short => freeLetter_not_mem short⟩
      · exact later o member
    · exact later o member

theorem ofDescriptors_eq_ok (accepted : Grammar.ofDescriptors command about descriptors = .ok g) :
    ∃ sorted, arrange [] ['h'] descriptors = .ok sorted ∧
      g = ⟨command, about, none, sorted.1, sorted.2⟩ := by
  obtain ⟨sorted, arranged, done⟩ := except_bind_eq_ok_iff.mp accepted
  exact ⟨sorted, arranged, (Except.ok.inj done).symm⟩

theorem ofDescriptors_apart (accepted : Grammar.ofDescriptors command about descriptors = .ok g) :
    g.Apart := by
  obtain ⟨sorted, arranged, rfl⟩ := ofDescriptors_eq_ok accepted
  intro o member
  obtain ⟨other, apart⟩ := arrange_apart [] ['h'] arranged o member
  exact ⟨other, fun short => apart 'h' short List.mem_cons_self⟩

/-! ### What descriptions become -/

/-- Descriptions of options become options and the others positional values, in the same order. -/
theorem arrange_sorted (names : List String) (letters : List Char)
    (arranged : arrange names letters descriptors = .ok sorted) :
    sorted.1.map ({ · with short := none }) =
        (descriptors.filter (·.optional)).map (Descriptor.toNamed · none) ∧
      sorted.2 = (descriptors.filter (!·.optional)).map Descriptor.toPositional := by
  induction descriptors generalizing names letters sorted with
  | nil =>
    cases arranged
    exact ⟨rfl, rfl⟩
  | cons d rest ih =>
    obtain ⟨-, -, behind, found, rfl⟩ := arrange_cons_eq_ok arranged
    obtain ⟨named, positionals⟩ := ih _ _ found
    cases place : d.optional with
    | true => simp [Descriptor.place, place, named, positionals, Descriptor.toNamed]
    | false => simp [Descriptor.place, place, named, positionals]

theorem ofDescriptors_positionals (accepted : Grammar.ofDescriptors command about descriptors = .ok g) :
    g.positionals = (descriptors.filter (!·.optional)).map Descriptor.toPositional := by
  obtain ⟨sorted, arranged, rfl⟩ := ofDescriptors_eq_ok accepted
  exact (arrange_sorted [] ['h'] arranged).2

theorem ofDescriptors_names (accepted : Grammar.ofDescriptors command about descriptors = .ok g) :
    g.named.map (·.name) = (descriptors.filter (·.optional)).map (·.name) := by
  obtain ⟨sorted, arranged, rfl⟩ := ofDescriptors_eq_ok accepted
  have names := congrArg (List.map Named.name) (arrange_sorted [] ['h'] arranged).1
  rwa [List.map_map, List.map_map] at names

/-- The options of a grammar are those that are described. -/
theorem descriptor_of_mem_named (accepted : Grammar.ofDescriptors command about descriptors = .ok g)
    (member : o ∈ g.named) : ∃ d ∈ descriptors, d.optional = true ∧ o = d.toNamed o.short := by
  obtain ⟨sorted, arranged, rfl⟩ := ofDescriptors_eq_ok accepted
  have plain : { o with short := none } ∈ sorted.1.map ({ · with short := none }) :=
    List.mem_map.mpr ⟨o, member, rfl⟩
  rw [(arrange_sorted [] ['h'] arranged).1] at plain
  obtain ⟨d, described, same⟩ := List.mem_map.mp plain
  obtain ⟨inside, optional⟩ := List.mem_filter.mp described
  refine ⟨d, inside, optional, ?_⟩
  have whole := congrArg (fun other : Named => { other with short := o.short }) same
  exact whole.symm

theorem exists_named_of_mem (accepted : Grammar.ofDescriptors command about descriptors = .ok g)
    (member : d ∈ descriptors) (optional : d.optional = true) : ∃ short, d.toNamed short ∈ g.named := by
  obtain ⟨sorted, arranged, rfl⟩ := ofDescriptors_eq_ok accepted
  have plain : d.toNamed none ∈ (descriptors.filter (·.optional)).map (Descriptor.toNamed · none) :=
    List.mem_map.mpr ⟨d, List.mem_filter.mpr ⟨member, optional⟩, rfl⟩
  rw [← (arrange_sorted [] ['h'] arranged).1] at plain
  obtain ⟨o, inside, same⟩ := List.mem_map.mp plain
  have whole := congrArg (fun other : Named => { other with short := o.short }) same
  refine ⟨o.short, ?_⟩
  have named : o = d.toNamed o.short := whole
  rwa [← named]

end LineEditor.Options
