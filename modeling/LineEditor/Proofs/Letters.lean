import LineEditor.Proofs.Arguments

/-! Short letters of options. A letter goes to the first option whose name begins with it, and to nothing
else; `-h` asks for help whatever there is. So an option can be given by its letter as well as by its name. -/
namespace LineEditor

theorem Text.isControl_of_isAlphanum {c : Char} (letter : c.isAlphanum = true) : isControl c = false := by
  have digits : '0'.val.toNat = 0x30 ∧ '9'.val.toNat = 0x39 := by decide
  have capitals : 'A'.val.toNat = 0x41 ∧ 'Z'.val.toNat = 0x5a := by decide
  have smalls : 'a'.val.toNat = 0x61 ∧ 'z'.val.toNat = 0x7a := by decide
  have spelled : c.isAlphanum = ((decide ('A'.val ≤ c.val ∧ c.val ≤ 'Z'.val) ||
      (decide ('a'.val ≤ c.val) && decide (c.val ≤ 'z'.val))) ||
        (decide ('0'.val ≤ c.val) && decide (c.val ≤ '9'.val))) := rfl
  have same : c.toNat = c.val.toNat := rfl
  have within : 0x20 ≤ c.toNat ∧ c.toNat < 0x7f := by
    rw [spelled] at letter
    simp only [Bool.or_eq_true, Bool.and_eq_true, decide_eq_true_eq, UInt32.le_iff_toNat_le] at letter
    omega
  simp only [isControl, Bool.or_eq_false_iff, decide_eq_false_iff_not, beq_eq_false_iff_ne]
  omega

/-- A text without control characters is shown as it is. -/
theorem Text.plain_of_printable (printable : ∀ c ∈ text.toList, isControl c = false) :
    plain text = text := by
  have shown (chars : List Char) (printable : ∀ c ∈ chars, isControl c = false) :
      (scan .outside chars).filterMap id = chars := by
    induction chars with
    | nil => rfl
    | cons c chars ih =>
      obtain ⟨here, later⟩ := List.forall_mem_cons.mp printable
      have step : EscapeState.step .outside c = (true, .outside) := by
        have bounds : ¬ c.toNat < 0x20 := by
          intro small
          simp [isControl, small] at here
        unfold EscapeState.step
        simp only [isShown, here, Bool.not_false, Bool.or_true]
        rw [if_neg (by omega), if_neg (by omega)]
      simpa [scan, step] using ih later
  rw [plain, shown _ printable, String.ofList_toList]

namespace Options

/-- A letter or digit that is not spoken for by help. -/
def IsLetter (c : Char) : Prop := c.isAlphanum = true ∧ c ≠ 'h'

theorem IsLetter.ne_dash (letter : IsLetter c) : c ≠ '-' := by
  rintro rfl
  exact absurd letter.1 (by decide)

def shortFlag (c : Char) : String := String.ofList ['-', c]

def Descriptor.Asks (c : Char) (d : Descriptor) : Prop :=
  d.optional = true ∧ d.name.toList.head? = some c

inductive First (c : Char) : List Descriptor → Descriptor → Prop where
  | here : d.Asks c → First c (d :: rest) d
  | later : ¬ d.Asks c → First c rest e → First c (d :: rest) e

variable {names : List String} {letters : List Char} {c : Char} {d e : Descriptor}
  {rest descriptors : List Descriptor} {g : Grammar} {o : Named} {s : State}

/-! ### Who has a letter -/

theorem First.asks (first : First c descriptors d) : d ∈ descriptors ∧ d.Asks c := by
  induction first with
  | here asks => exact ⟨List.mem_cons_self, asks⟩
  | later _ _ ih => exact ⟨List.mem_cons_of_mem _ ih.1, ih.2⟩

theorem First.unique (first : First c descriptors d) (other : First c descriptors e) : d = e := by
  induction first with
  | here asks =>
    cases other with
    | here _ => rfl
    | later refuses _ => exact (refuses asks).elim
  | later refuses _ ih =>
    cases other with
    | here asks => exact (refuses asks).elim
    | later _ other => exact ih other

theorem freeLetter_eq_some_iff : freeLetter letters name = some c ↔
    name.toList.head? = some c ∧ c.isAlphanum = true ∧ c ∉ letters := by
  unfold freeLetter
  cases name.toList with
  | nil => simp
  | cons first more =>
    simp only [List.head?_cons, Option.some.injEq]
    constructor
    · intro free
      split at free
      · rename_i fits
        cases free
        simpa using fits
      · contradiction
    · rintro ⟨rfl, fits⟩
      rw [if_pos (by simpa using fits)]

theorem first_cons_iff : First c (d :: rest) e ↔ d.Asks c ∧ e = d ∨ ¬ d.Asks c ∧ First c rest e := by
  constructor
  · intro first
    cases first with
    | here asks => exact .inl ⟨asks, rfl⟩
    | later refuses first => exact .inr ⟨refuses, first⟩
  · rintro (⟨asks, rfl⟩ | ⟨refuses, first⟩)
    · exact .here asks
    · exact .later refuses first

/-- The option that is described first has the letter if it asks for it and the letter is free. -/
theorem mem_place_iff (behind : List Named × List Positional) :
    o ∈ (d.place letters behind).1 ∧ o.short = some c ↔
      (d.Asks c ∧ c.isAlphanum = true ∧ c ∉ letters) ∧ o = d.toNamed (some c) ∨
        o ∈ behind.1 ∧ o.short = some c := by
  unfold Descriptor.place Descriptor.Asks
  cases d.optional with
  | false => simp
  | true =>
    simp only [if_true, List.mem_cons, true_and, ← freeLetter_eq_some_iff]
    constructor
    · rintro ⟨rfl | later, short⟩
      · have free : freeLetter letters d.name = some c := short
        exact .inl ⟨free, by rw [free]⟩
      · exact .inr ⟨later, short⟩
    · rintro (⟨free, rfl⟩ | ⟨later, short⟩)
      · exact ⟨.inl (by rw [free]), rfl⟩
      · exact ⟨.inr later, short⟩

theorem mem_taking_iff : c ∈ d.taking letters ↔
    (d.Asks c ∧ c.isAlphanum = true ∧ c ∉ letters) ∨ c ∈ letters := by
  unfold Descriptor.taking Descriptor.Asks
  cases d.optional with
  | false => simp
  | true => simp [← freeLetter_eq_some_iff]

/-- A letter that is not taken yet goes to the first description that asks for it. -/
theorem arrange_letters (arranged : arrange names letters descriptors = .ok sorted) :
    o ∈ sorted.1 ∧ o.short = some c ↔
      c.isAlphanum = true ∧ c ∉ letters ∧ ∃ d, First c descriptors d ∧ o = d.toNamed (some c) := by
  induction descriptors generalizing names letters sorted with
  | nil =>
    cases arranged
    refine iff_of_false (fun member => nomatch member.1) ?_
    rintro ⟨-, -, d, first, -⟩
    cases first
  | cons d rest ih =>
    obtain ⟨-, -, behind, found, rfl⟩ := arrange_cons_eq_ok arranged
    rw [mem_place_iff, ih found, mem_taking_iff]
    simp only [first_cons_iff]
    constructor
    · rintro (⟨⟨asks, letter, free⟩, same⟩ | ⟨letter, free, e, first, same⟩)
      · exact ⟨letter, free, d, .inl ⟨asks, rfl⟩, same⟩
      · obtain ⟨passed, free⟩ := not_or.mp free
        exact ⟨letter, free, e, .inr ⟨fun asks => passed ⟨asks, letter, free⟩, first⟩, same⟩
    · rintro ⟨letter, free, e, ⟨asks, rfl⟩ | ⟨refuses, first⟩, same⟩
      · exact .inl ⟨⟨asks, letter, free⟩, same⟩
      · refine .inr ⟨letter, ?_, e, first, same⟩
        rintro (⟨asks, -⟩ | taken)
        · exact refuses asks
        · exact free taken

theorem ofDescriptors_letters (accepted : Grammar.ofDescriptors command about descriptors = .ok g) :
    o ∈ g.named ∧ o.short = some c ↔
      IsLetter c ∧ ∃ d, First c descriptors d ∧ o = d.toNamed (some c) := by
  obtain ⟨sorted, arranged, rfl⟩ := ofDescriptors_eq_ok accepted
  rw [arrange_letters arranged, List.mem_singleton, IsLetter, and_assoc]

/-- The option of a letter is found by the letter. -/
theorem find?_short (accepted : Grammar.ofDescriptors command about descriptors = .ok g)
    (letter : IsLetter c) (first : First c descriptors d) :
    g.named.find? (·.short == some c) = some (d.toNamed (some c)) := by
  obtain ⟨member, short⟩ := (ofDescriptors_letters accepted).mpr ⟨letter, d, first, rfl⟩
  obtain ⟨o, found⟩ : ∃ o, g.named.find? (·.short == some c) = some o :=
    Option.isSome_iff_exists.mp (List.find?_isSome.mpr ⟨_, member, by simpa using short⟩)
  have has : o.short = some c := by simpa using List.find?_some found
  obtain ⟨-, e, other, same⟩ :=
    (ofDescriptors_letters accepted).mp ⟨List.mem_of_find?_eq_some found, has⟩
  rw [found, same, other.unique first]

theorem find?_short_eq_none (accepted : Grammar.ofDescriptors command about descriptors = .ok g)
    (unwanted : ∀ d ∈ descriptors, ¬ d.Asks c) : g.named.find? (·.short == some c) = none := by
  rw [List.find?_eq_none]
  intro o member same
  obtain ⟨-, d, first, -⟩ := (ofDescriptors_letters accepted).mp ⟨member, by simpa using same⟩
  exact unwanted d first.asks.1 first.asks.2

/-! ### Words that give options -/

namespace State

theorem next_shortFlag (optional : s.literal = false) (other : c ≠ '-') :
    State.next g s (shortFlag c) = State.short g s c [] := by
  have word : (shortFlag c).toList = ['-', c] := String.toList_ofList
  rw [State.next, optional, word]
  simp only [Bool.false_eq_true, if_false]
  split
  · rename_i dashes
    cases dashes
    contradiction
  · rename_i dashes
    cases dashes
    contradiction
  · rename_i letter
    cases letter
    rfl
  · rename_i _ _ unlike
    exact (unlike c [] rfl).elim

/-- An option is begun by its letter as by its name. -/
theorem next_letter (accepted : Grammar.ofDescriptors command about descriptors = .ok g)
    (letter : IsLetter c) (first : First c descriptors d) (plain : '=' ∉ d.name.toList)
    (optional : s.literal = false) :
    State.next g s ("--" ++ d.name) = State.next g s (shortFlag c) := by
  have known := find?_short accepted letter first
  have named := ((exists_ofDescriptors_iff.mp ⟨g, accepted⟩).named d first.asks.1).1
  have byName : g.named.find? (·.name == d.name) = some (d.toNamed (some c)) :=
    find?_name (List.nodup_append.mp (ofDescriptors_regular accepted).distinct).1
      (List.mem_of_find?_eq_some known)
  rw [next_longFlag optional named plain, next_shortFlag optional letter.ne_dash, long, short, byName, known]

/-- A letter that no option has asked for is not known. -/
theorem next_unwanted (accepted : Grammar.ofDescriptors command about descriptors = .ok g)
    (letter : IsLetter c) (unwanted : ∀ d ∈ descriptors, ¬ d.Asks c) (optional : s.literal = false) :
    State.next g s (shortFlag c) = .error (.failed (.unknownShort c)) := by
  obtain ⟨sorted, -, rfl⟩ := ofDescriptors_eq_ok accepted
  have unknown := find?_short_eq_none accepted unwanted
  rw [next_shortFlag optional letter.ne_dash, short, unknown]
  have unversioned : ¬ (c = 'V' ∧ (none : Option String).isSome = true) := by simp
  simp only [if_neg letter.2, if_neg unversioned]
  rfl

end State

namespace Grammar

/-- Where words in front do not make a word literal, it may be written in any way that is read alike. -/
theorem read_congr {word other : String} {front : List String}
    (alike : ∀ s : State, s.literal = false → State.next g s word = State.next g s other)
    (ahead : "--" ∉ front) (back : List String) :
    g.read (front ++ word :: back) = g.read (front ++ other :: back) := by
  unfold read
  rw [List.foldlM_append, List.foldlM_append]
  cases begun : front.foldlM (State.next g) (State.start g) with
  | error stop => rfl
  | ok s =>
    have optional : s.literal = false := State.foldlM_literal begun ahead
    simp only [bind, Except.bind, List.foldlM_cons, alike s optional]

/-- Where the words in front are understood, a word that stops the reading decides what comes of it. -/
theorem read_of_stop {word : String} (begun : front.foldlM (State.next g) (State.start g) = .ok s)
    (stops : State.next g s word = .error stop) (back : List String) :
    g.read (front ++ word :: back) = .error stop := by
  unfold read
  rw [List.foldlM_append, begun]
  simp only [bind, Except.bind, List.foldlM_cons, stops]

end Grammar

theorem unknownShort_message (letter : c.isAlphanum = true) :
    (ReadError.unknownShort c).message = "unexpected argument '" ++ shortFlag c ++ "' found" := by
  have flag : Text.plain (shortFlag c) = shortFlag c := by
    have dash : Text.isControl '-' = false := by decide
    refine Text.plain_of_printable ?_
    rw [shortFlag, String.toList_ofList]
    simp [dash, Text.isControl_of_isAlphanum letter]
  have front : Text.plain ("" ++ "unexpected argument '") = "unexpected argument '" := by decide +kernel
  have back : Text.plain ("" ++ "' found") = "' found" := by decide +kernel
  have joined : (ReadError.unknownShort c).message = String.join [Text.plain ("" ++ "unexpected argument '"),
      Text.plain (shortFlag c), Text.plain ("" ++ "' found")] := rfl
  rw [joined, front, flag, back]
  simp [String.join]

/-- Of the options described a letter has the first one whose name begins with it, and nothing else has it, so
that no two options share a letter. An option is given by its letter as well as by its name, whatever stands
in front of it and behind. A letter that begins no name is not known. And `-h` asks for help as `--help`
does, and gets it unless what stands in front is wrong. -/
theorem letters_allotted (accepted : Grammar.ofDescriptors command about descriptors = .ok g) :
    (∀ o c, o ∈ g.named ∧ o.short = some c ↔
      IsLetter c ∧ ∃ d, First c descriptors d ∧ o = d.toNamed (some c)) ∧
    (∀ o ∈ g.named, ∀ o' ∈ g.named, o.short ≠ none → o.short = o'.short → o = o') ∧
    (∀ c d, IsLetter c → First c descriptors d → '=' ∉ d.name.toList →
      ∀ front value back, "--" ∉ front →
        g.read (front ++ ("--" ++ d.name) :: value :: back) =
          g.read (front ++ shortFlag c :: value :: back)) ∧
    (∀ c, IsLetter c → (∀ d ∈ descriptors, ¬ d.Asks c) →
      (ReadError.unknownShort c).message = "unexpected argument '" ++ shortFlag c ++ "' found" ∧
      ∀ front s back, "--" ∉ front → front.foldlM (State.next g) (State.start g) = .ok s →
        g.read (front ++ shortFlag c :: back) = .error (.failed (.unknownShort c))) ∧
    (∀ front s settled back, "--" ∉ front → front.foldlM (State.next g) (State.start g) = .ok s →
      s.settle = .ok settled → g.read (front ++ "-h" :: back) = .error .help) ∧
    ∀ front back, "--" ∉ front → g.read (front ++ "-h" :: back) = g.read (front ++ "--help" :: back) := by
  have apart := ofDescriptors_apart accepted
  refine ⟨fun o c => ofDescriptors_letters accepted, ?_, ?_, ?_, ?_, ?_⟩
  · intro o member o' member' some same
    obtain ⟨c, short⟩ := Option.ne_none_iff_exists'.mp some
    obtain ⟨-, d, first, rfl⟩ := (ofDescriptors_letters accepted).mp ⟨member, short⟩
    obtain ⟨-, e, other, rfl⟩ := (ofDescriptors_letters accepted).mp ⟨member', same.symm.trans short⟩
    rw [first.unique other]
  · intro c d letter first plain front value back ahead
    exact Grammar.read_congr (fun s => State.next_letter accepted letter first plain) ahead (value :: back)
  · intro c letter unwanted
    refine ⟨unknownShort_message letter.1, fun front s back ahead begun => ?_⟩
    have optional : s.literal = false := State.foldlM_literal begun ahead
    exact Grammar.read_of_stop begun (State.next_unwanted accepted letter unwanted optional) back
  · intro front s settled back ahead begun understood
    have optional : s.literal = false := State.foldlM_literal begun ahead
    have stops : State.next g s "-h" = .error .help := by
      rw [State.next_flag apart optional (by decide), State.stopWith, understood]
      rfl
    exact Grammar.read_of_stop begun stops back
  · intro front back ahead
    refine Grammar.read_congr (fun s optional => ?_) ahead back
    rw [State.next_flag apart optional (by decide), State.next_flag apart optional (by decide)]

/-- The second option with the same letter goes without, and so does one that asks for the letter of help. A
positional value that has taken its place in front has no letter either. -/
theorem letters_allotted_second :
    let force : Descriptor := ⟨"force", .text, false, none, ""⟩
    let file : Descriptor := ⟨"file", .text, true, none, ""⟩
    let format : Descriptor := ⟨"format", .text, true, none, ""⟩
    let height : Descriptor := ⟨"height", .integer, true, none, ""⟩
    ∃ g, Grammar.ofDescriptors "x" "test" [force, file, format, height] = .ok g ∧
      (∀ o, o ∈ g.named ∧ o.short = some 'f' ↔ o = file.toNamed (some 'f')) ∧
      (∀ o ∈ g.named, o.short ≠ some 'h') ∧
      g.read ["in", "--file", "a", "--format", "b"] = g.read ["in", "-f", "a", "--format", "b"] ∧
      g.read ["in", "-x"] = .error (.failed (.unknownShort 'x')) ∧
      g.read ["in", "-h", "-x"] = .error .help := by
  intro force file format height
  let g : Grammar := ⟨"x", "test", none,
    [file.toNamed (some 'f'), format.toNamed none, height.toNamed none], [force.toPositional]⟩
  have accepted : Grammar.ofDescriptors "x" "test" [force, file, format, height] = .ok g := by decide +kernel
  obtain ⟨has, -, alike, unwanted, help, -⟩ := letters_allotted accepted
  have first : First 'f' [force, file, format, height] file :=
    .later (fun asks => nomatch asks.1) (.here ⟨rfl, by decide⟩)
  have letter : IsLetter 'f' := ⟨by decide, by decide⟩
  have begun : ["in"].foldlM (State.next g) (State.start g) =
      .ok ⟨⟨[]⟩, some (.positional force.toPositional "in"), [], false⟩ := by decide +kernel
  have unasked : ∀ d ∈ [force, file, format, height], ¬ d.Asks 'x' := by
    intro d member asks
    have begins : ∀ d ∈ [force, file, format, height], d.name.toList.head? ≠ some 'x' := by decide
    exact begins d member asks.2
  refine ⟨g, accepted, fun o => ?_, ?_, ?_, ?_, help ["in"] _ _ ["-x"] (by decide) begun rfl⟩
  · rw [has]
    constructor
    · rintro ⟨-, d, other, rfl⟩
      rw [other.unique first]
    · rintro rfl
      exact ⟨letter, file, first, rfl⟩
  · intro o member short
    exact ((has o 'h').mp ⟨member, short⟩).1.2 rfl
  · exact alike 'f' file letter first (by decide) ["in"] "a" ["--format", "b"] (by decide)
  · exact (unwanted 'x' ⟨by decide, by decide⟩ unasked).2 ["in"] _ [] (by decide) begun

end Options
end LineEditor
