import LineEditor.Proofs.Understood

/-! Words that give options as `--name=value` and then all positional values. They are understood exactly
if no option is given twice, there are as many positional values as are declared, and all of them, like the
fallbacks of the options left out, denote values of their kinds. Otherwise there is a mistake. -/
namespace LineEditor.Options

def Grammar.arguments (g : Grammar) (options : List Argument) (values : List String) : List Argument :=
  options ++ List.zipWith Positional.given g.positionals values ++ omitted (options.map (·.name)) g.named

namespace Grammar

variable {g : Grammar} {options : List Argument} {words values : List String}

theorem names_zipWith (positionals : List Positional) (values : List String) :
    (List.zipWith Positional.given positionals values).map (·.name) =
      (positionals.take values.length).map (·.name) := by
  induction positionals generalizing values with
  | nil => simp
  | cons p positionals ih =>
    cases values with
    | nil => rfl
    | cons word values =>
      have later := ih values
      simp [Positional.given, later]

theorem mem_omitted_iff {names : List String} {named : List Named} : a ∈ omitted names named ↔
    ∃ o ∈ named, o.name ∉ names ∧ ∃ word, o.fallback = some word ∧ o.given word = a := by
  rw [omitted, List.mem_filterMap]
  refine exists_congr fun o => and_congr_right fun _ => ?_
  by_cases known : o.name ∈ names
  · simp [known]
  · simp [known, Option.map_eq_some_iff]

theorem name_of_mem_omitted {names : List String} {named : List Named} (member : a ∈ omitted names named) :
    a.name ∈ named.map (·.name) ∧ a.name ∉ names := by
  obtain ⟨o, inside, unknown, word, -, rfl⟩ := mem_omitted_iff.mp member
  exact ⟨List.mem_map.mpr ⟨o, inside, rfl⟩, unknown⟩

theorem omitted_sublist (names : List String) (named : List Named) :
    ((omitted names named).map (·.name)).Sublist (named.map (·.name)) := by
  induction named with
  | nil => exact .slnil
  | cons o named ih =>
    rw [omitted, List.filterMap_cons]
    split
    · exact ih.cons _
    · rename_i a some
      have name : a.name = o.name := by
        split at some
        · contradiction
        · obtain ⟨word, -, rfl⟩ := Option.map_eq_some_iff.mp some
          rfl
      rw [List.map_cons, List.map_cons, name]
      exact ih.cons_cons _

theorem Declares.name_mem (declared : g.Declares a) : a.name ∈ g.named.map (·.name) := by
  obtain ⟨o, member, same⟩ := declared.named
  exact List.mem_map.mpr ⟨o, member, (congrArg Argument.name same).symm⟩

theorem Regular.apart (regular : g.Regular) (named : name ∈ g.named.map (·.name)) :
    name ∉ (List.zipWith Positional.given g.positionals values).map (·.name) := by
  intro positional
  rw [names_zipWith, List.map_take] at positional
  exact (List.nodup_append.mp regular.distinct).2.2 name named name (List.mem_of_mem_take positional) rfl

/-- What is left out does not depend on the positional values, since they have other names. -/
theorem omitted_names (regular : g.Regular) (options : List Argument) (values : List String) :
    omitted (options.map (·.name) ++ (List.zipWith Positional.given g.positionals values).map (·.name))
      g.named = omitted (options.map (·.name)) g.named := by
  refine State.omitted_congr fun o member => ?_
  rw [List.mem_append, or_iff_left (regular.apart (List.mem_map.mpr ⟨o, member, rfl⟩))]

/-- All arguments have different names if the options have. -/
theorem arguments_nodup (regular : g.Regular) (declared : ∀ a ∈ options, g.Declares a)
    (distinct : (options.map (·.name)).Nodup) (values : List String) :
    ((g.arguments options values).map (·.name)).Nodup := by
  obtain ⟨named, positional, -⟩ := List.nodup_append.mp regular.distinct
  rw [arguments, List.map_append, List.map_append, List.nodup_append, List.nodup_append]
  refine ⟨⟨distinct, ?_, ?_⟩, named.sublist (omitted_sublist _ _), ?_⟩
  · rw [names_zipWith, List.map_take]
    exact positional.sublist (List.take_sublist _ _)
  · rintro name option _ placed rfl
    obtain ⟨a, inside, rfl⟩ := List.mem_map.mp option
    exact regular.apart (declared a inside).name_mem placed
  · rintro name given _ omission rfl
    obtain ⟨a, inside, rfl⟩ := List.mem_map.mp omission
    obtain ⟨named, unknown⟩ := name_of_mem_omitted inside
    rcases List.mem_append.mp given with option | placed
    · exact unknown option
    · exact regular.apart named placed

/-- No positional value is lacking exactly if there are as many as are declared. -/
theorem complete_iff (regular : g.Regular) (declared : ∀ a ∈ options, g.Declares a)
    (enough : values.length ≤ g.positionals.length) :
    (∀ p ∈ g.positionals, p.required = true → p.name ∈ (g.arguments options values).map (·.name)) ↔
      values.length = g.positionals.length := by
  obtain ⟨-, distinct, apart⟩ := List.nodup_append.mp regular.distinct
  constructor
  · intro complete
    by_contra fewer
    have short : values.length < g.positionals.length := Nat.lt_of_le_of_ne enough fewer
    obtain ⟨p, here⟩ : ∃ p, g.positionals[values.length]? = some p :=
      ⟨_, List.getElem?_eq_getElem short⟩
    have member := List.mem_of_getElem? here
    have named := complete p member (regular.required p member)
    have other (option : p.name ∈ g.named.map (·.name)) : False :=
      apart p.name option p.name (List.mem_map.mpr ⟨p, member, rfl⟩) rfl
    rw [arguments, List.map_append, List.map_append, List.mem_append, List.mem_append] at named
    rcases named with (option | positional) | omission
    · obtain ⟨a, inside, same⟩ := List.mem_map.mp option
      exact other (same ▸ (declared a inside).name_mem)
    · rw [names_zipWith, List.map_take] at positional
      have later : p.name ∈ (g.positionals.map (·.name)).drop values.length := by
        refine List.mem_of_getElem? (i := 0) ?_
        rw [List.getElem?_drop, Nat.add_zero, List.getElem?_map, here]
        rfl
      exact List.disjoint_take_drop distinct (Nat.le_refl _) positional later
    · exact other ((omitted_sublist _ _).subset omission)
  · intro same p member _
    have inside : p.name ∈ (List.zipWith Positional.given g.positionals values).map (·.name) := by
      rw [names_zipWith, same, List.take_length]
      exact List.mem_map.mpr ⟨p, member, rfl⟩
    rw [arguments, List.map_append, List.map_append]
    exact List.mem_append_left _ (List.mem_append_right _ inside)

/-- What is known behind all words, of which the last may still be pending: the options and positional values
given. -/
theorem run_given_iff (regular : g.Regular) (declared : ∀ a ∈ options, g.Declares a)
    (places : Places words values) (v : Values) :
    (∃ last r, (options.map Argument.attached ++ words).foldlM (State.next g) (State.start g) = .ok last ∧
        last.settle = .ok r ∧ r.values = v) ↔
      (options.map (·.name)).Nodup ∧ values.length ≤ g.positionals.length ∧
        List.Forall₂ Argument.Found (options ++ List.zipWith Positional.given g.positionals values)
          v.found := by
  have start (t : State) := State.foldlM_attached_eq_ok_iff (s := State.start g) (t := t) regular declared
    rfl rfl
  have behind (given : List (String × Value)) :=
    State.foldlM_places_iff (g := g) (s := (State.start g).enter given) (v := v) places rfl rfl
  constructor
  · rintro ⟨last, r, run, settled, same⟩
    rw [List.foldlM_append, except_bind_eq_ok_iff] at run
    obtain ⟨middle, first, later⟩ := run
    obtain ⟨distinct, -, given, found, rfl⟩ := (start middle).mp first
    obtain ⟨enough, placed, found', rfl⟩ := (behind given).mp ⟨last, r, later, settled, same⟩
    exact ⟨distinct, enough, Argument.found_append_iff.mpr ⟨given, placed, rfl, found, found'⟩⟩
  · rintro ⟨distinct, enough, all⟩
    obtain ⟨given, placed, whole, found, found'⟩ := Argument.found_append_iff.mp all
    have first := (start _).mpr ⟨distinct, nofun, given, found, rfl⟩
    obtain ⟨last, r, later, settled, same⟩ :=
      (behind given).mpr ⟨enough, placed, found', congrArg Values.mk whole⟩
    refine ⟨last, r, ?_, settled, same⟩
    rw [List.foldlM_append, except_bind_eq_ok_iff]
    exact ⟨_, first, later⟩

/-- What is left out is the same whether it is told by what is given or by what has been found. -/
theorem omitted_of_found (regular : g.Regular) {v : Values} (known : List.Forall₂ Argument.Found
      (options ++ List.zipWith Positional.given g.positionals values) v.found) :
    omitted v.names g.named = omitted (options.map (·.name)) g.named := by
  rw [Values.names, Argument.names_of_found known, List.map_append]
  exact omitted_names regular options values

/-- Options with their values, and then the positional values, are understood exactly if no option is given
twice and none of the positional values is lacking or too many, and all of them denote values of their
kinds, as do the fallbacks of the other options. -/
theorem read_given_iff (regular : g.Regular) (declared : ∀ a ∈ options, g.Declares a)
    (places : Places words values) (found : Values) :
    g.read (options.map Argument.attached ++ words) = .ok found ↔
      (options.map (·.name)).Nodup ∧ values.length = g.positionals.length ∧
        List.Forall₂ Argument.Found (g.arguments options values) found.found := by
  have named := (List.nodup_append.mp regular.distinct).1
  constructor
  · intro read
    obtain ⟨last, run, finished⟩ := except_bind_eq_ok_iff.mp read
    obtain ⟨r, rest, settled, omission, rfl, complete⟩ :=
      (State.finish_eq_ok_iff named).mp (except_mapError_eq_ok_iff.mp finished)
    obtain ⟨distinct, enough, known⟩ :=
      (run_given_iff regular declared places r.values).mp ⟨last, r, run, settled, rfl⟩
    rw [omitted_of_found regular known] at omission
    have all : List.Forall₂ Argument.Found (g.arguments options values) (r.values.found ++ rest) :=
      Argument.found_append_iff.mpr ⟨_, rest, rfl, known, omission⟩
    refine ⟨distinct, (complete_iff regular declared enough).mp ?_, all⟩
    rw [← Argument.names_of_found all]
    exact complete
  · rintro ⟨distinct, number, all⟩
    obtain ⟨front, rest, whole, known, omission⟩ := Argument.found_append_iff.mp all
    obtain ⟨last, r, run, settled, same⟩ :=
      (run_given_iff regular declared places ⟨front⟩).mpr ⟨distinct, Nat.le_of_eq number, known⟩
    have complete := (complete_iff regular declared (Nat.le_of_eq number)).mpr number
    rw [← Argument.names_of_found all] at complete
    rw [← omitted_of_found (v := ⟨front⟩) regular known, ← same] at omission
    have finished : last.finish g = .ok found := by
      refine (State.finish_eq_ok_iff named).mpr ⟨r, rest, settled, omission, ?_, complete⟩
      rw [same]
      exact congrArg Values.mk whole
    exact except_bind_eq_ok_iff.mpr ⟨last, run, except_mapError_eq_ok_iff.mpr finished⟩

/-- An option that is all there is takes the value that is attached to its name. -/
theorem read_attached (command about : String) (o : Named) (plain : '=' ∉ o.name.toList)
    (denotes : o.kind.Denotes word value) :
    (⟨command, about, none, [o], []⟩ : Grammar).read ["--" ++ o.name ++ "=" ++ word] =
      .ok ⟨[(o.name, value)]⟩ := by
  have regular : (⟨command, about, none, [o], []⟩ : Grammar).Regular := ⟨List.nodup_singleton o.name, nofun⟩
  have declared : ∀ a ∈ [o.given word], (⟨command, about, none, [o], []⟩ : Grammar).Declares a := by
    intro a member
    obtain rfl := List.mem_singleton.mp member
    exact ⟨plain, o, List.mem_singleton_self o, rfl⟩
  have none : Places [] [] := .plain nofun
  have known : omitted [o.name] [o] = [] := by simp [omitted]
  have all : List.Forall₂ Argument.Found ([o.given word] ++ [] ++ omitted [o.name] [o]) [(o.name, value)] := by
    rw [known]
    exact .cons ⟨rfl, denotes⟩ .nil
  exact (read_given_iff regular declared none _).mpr ⟨List.nodup_singleton o.name, rfl, all⟩

/-- If all that is given is right, words are refused only for a fallback that denotes no value of its kind. -/
theorem read_given_eq_error (regular : g.Regular) (declared : ∀ a ∈ options, g.Declares a)
    (places : Places words values) (distinct : (options.map (·.name)).Nodup)
    (number : values.length = g.positionals.length)
    (fit : ∀ a ∈ options ++ List.zipWith Positional.given g.positionals values, a.kind.Fits a.word)
    (refused : g.read (options.map Argument.attached ++ words) = .error stop) :
    ∃ e, stop = .failed e ∧
      ∃ o ∈ g.named, ∃ word, o.fallback = some word ∧ o.kind.read o.shown word = .error e := by
  obtain ⟨front, known⟩ := Argument.exists_found_iff.mpr fit
  obtain ⟨last, r, run, settled, same⟩ :=
    (run_given_iff regular declared places ⟨front⟩).mpr ⟨distinct, Nat.le_of_eq number, known⟩
  have ending : (last.finish g).mapError Stop.failed = .error stop := by
    rw [read, run] at refused
    exact refused
  cases added : r.addFallbacks g.named with
  | error e =>
    have finished : last.finish g = .error e := by
      simp only [State.finish, settled, added, bind, Except.bind]
    rw [finished] at ending
    exact ⟨e, (Except.error.inj ending).symm, State.addFallbacks_eq_error added⟩
  | ok t =>
    obtain ⟨rest, omission, -⟩ :=
      (State.addFallbacks_eq_ok_iff (List.nodup_append.mp regular.distinct).1).mp added
    rw [same, omitted_of_found (v := ⟨front⟩) regular known] at omission
    have all : List.Forall₂ Argument.Found (g.arguments options values) (front ++ rest) :=
      Argument.found_append_iff.mpr ⟨front, rest, rfl, known, omission⟩
    have read := (read_given_iff regular declared places ⟨front ++ rest⟩).mpr ⟨distinct, number, all⟩
    rw [refused] at read
    contradiction

/-! ### Words that are not understood -/

end Grammar

/-- If nothing comes of it, then because of a mistake: it is no request for help or version. -/
def Mistaken (x : Except Stop α) : Prop := ∀ stop, x = .error stop → ∃ e, stop = .failed e

theorem mistaken_mapError (x : Except ReadError α) : Mistaken (x.mapError .failed) := by
  intro stop refused
  cases x with
  | error e =>
    cases refused
    exact ⟨e, rfl⟩
  | ok a => contradiction

theorem Mistaken.bind {x : Except Stop α} {f : α → Except Stop β} (first : Mistaken x)
    (rest : ∀ a, x = .ok a → Mistaken (f a)) : Mistaken (x >>= f) := by
  cases x with
  | error stop =>
    rintro _ ⟨⟩
    exact first stop rfl
  | ok a => exact rest a rfl

theorem mistaken_foldlM {step : State → String → Except Stop State} (inv : State → Prop)
    (words : List String) (mistaken : ∀ s, inv s → ∀ word ∈ words, Mistaken (step s word))
    (keeps : ∀ s, inv s → ∀ word ∈ words, ∀ t, step s word = .ok t → inv t) (start : inv s) :
    Mistaken (words.foldlM step s) := by
  induction words generalizing s with
  | nil => nofun
  | cons word words ih =>
    rw [List.foldlM_cons]
    refine (mistaken s start word List.mem_cons_self).bind fun t first => ?_
    exact ih (fun s holds w inside => mistaken s holds w (List.mem_cons_of_mem word inside))
      (fun s holds w inside => keeps s holds w (List.mem_cons_of_mem word inside))
      (keeps s start word List.mem_cons_self t first)

namespace State

variable {g : Grammar} {s : State}

theorem mistaken_attached (regular : g.Regular) {options : List Argument}
    (declared : ∀ a ∈ options, g.Declares a) (settled : s.pending = none) (optional : s.literal = false) :
    Mistaken ((options.map Argument.attached).foldlM (State.next g) s) := by
  refine mistaken_foldlM (fun s => s.pending = none ∧ s.literal = false) _ ?_ ?_ ⟨settled, optional⟩
  · rintro s ⟨settled, optional⟩ word member
    obtain ⟨a, inside, rfl⟩ := List.mem_map.mp member
    obtain ⟨o, -, -, next⟩ := next_attached_eq regular (declared a inside) settled optional
    rw [next]
    exact mistaken_mapError _
  · rintro s ⟨settled, optional⟩ word member t read
    obtain ⟨a, inside, rfl⟩ := List.mem_map.mp member
    obtain ⟨-, entry, -, rfl⟩ :=
      (next_attached_eq_ok_iff regular (declared a inside) settled optional).mp read
    exact ⟨settled, optional⟩

theorem mistaken_positional (s : State) (word : String) : Mistaken (s.positional word) := by
  unfold positional
  split
  · exact mistaken_mapError _
  · rintro _ ⟨⟩
    exact ⟨_, rfl⟩

theorem mistaken_placed {values : List String} (settled : s.pending = none)
    (placed : ∀ word ∈ values, s.literal = true ∨ Plain word) :
    Mistaken (values.foldlM (State.next g) s) := by
  have closed : s.Closed := by
    intro o waiting
    rw [settled] at waiting
    contradiction
  refine mistaken_foldlM (fun t => t.Closed ∧ t.literal = s.literal) _ ?_ ?_ ⟨closed, rfl⟩
  · rintro t ⟨closed, literal⟩ word member
    rw [next_placed closed (literal ▸ placed word member)]
    exact mistaken_positional t word
  · rintro t ⟨closed, literal⟩ word member next read
    rw [next_placed closed (literal ▸ placed word member)] at read
    refine ⟨?_, (positional_literal read).trans literal⟩
    obtain ⟨p, awaited, r, -, -, rfl⟩ := positional_eq_ok_iff.mp read
    intro o waiting
    cases waiting

theorem mistaken_places {words values : List String} (places : Places words values)
    (settled : s.pending = none) (optional : s.literal = false) :
    Mistaken (words.foldlM (State.next g) s) := by
  cases places with
  | plain plain => exact mistaken_placed settled fun word member => .inr (plain word member)
  | marked values =>
    rw [foldlM_marked optional]
    exact mistaken_placed settled fun _ _ => .inl rfl

end State

namespace Grammar

variable {g : Grammar} {options : List Argument} {words values : List String}

/-- Such words never ask for help. -/
theorem mistaken_read (regular : g.Regular) (declared : ∀ a ∈ options, g.Declares a)
    (places : Places words values) : Mistaken (g.read (options.map Argument.attached ++ words)) := by
  unfold read
  rw [List.foldlM_append]
  refine Mistaken.bind (Mistaken.bind (State.mistaken_attached regular declared rfl rfl) ?_) fun last _ =>
    mistaken_mapError _
  intro middle first
  obtain ⟨-, -, entries, -, rfl⟩ := (State.foldlM_attached_eq_ok_iff regular declared rfl rfl).mp first
  exact State.mistaken_places places rfl rfl

end Grammar
end LineEditor.Options
